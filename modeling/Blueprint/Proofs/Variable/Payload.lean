import Blueprint.Proofs.Json.Objects
import Blueprint.Proofs.Variable.Declare
import Blueprint.Variable.Payload

/-!
# Declared variables in the payload

The payload of a declared variable shows texts that the declaration has checked; nothing is left
that could not be coerced. The pattern is checked on the text as it is written and the opt-in for
literal secrets is asked of one kind alone, so the last two sections say which variables keep their
pattern and which secrets are literal.
-/

namespace Blueprint.Variable

variable {name value : String} {kind : VarKind} {c : Constraints} {v : Variable}

/-! ### Fields -/

theorem text?_value (v : Variable) (id : Uuid) :
    (v.payload id).text? "value" = some v.wireValue := rfl

theorem get?_options (v : Variable) (id : Uuid) : (v.payload id).get? "options" = v.options? := by
  unfold payload
  cases v.options? with
  | none => cases v.regex <;> rfl
  | some o => rfl

/-- The field that asks the server to check a pattern again. -/
def validated (r : String) : Json := .obj [("value", .str r), ("should_validate", .bool true)]

theorem get?_regex (v : Variable) (id : Uuid) :
    (v.payload id).get? "regex" = v.regex.map validated := by
  unfold payload
  cases v.options? with
  | none => cases v.regex <;> rfl
  | some o => cases v.regex <;> rfl

theorem within?_choices {choices : List String} (options : v.kind = .options choices) (id : Uuid) :
    (v.payload id).within? ["options", "choices"] =
      some (.ofStrings (choices.map v.type.wireText)) := by
  have object : (v.payload id).get? "options" = some (.obj [("type", .str "PREDEFINED"),
      ("choices", .ofStrings (choices.map v.type.wireText))]) := by
    rw [get?_options, options?, options]
  simp only [Json.within?, List.foldlM_cons, object, Option.bind_eq_bind, Option.bind_some]
  rfl

/-! ### The value -/

theorem wireValue_of_empty (empty : v.effectiveValue = "") : v.wireValue = "" := by
  rw [wireValue, empty]
  rfl

theorem wireValue_of_full (full : v.effectiveValue ≠ "") :
    v.wireValue = v.type.wireText v.effectiveValue := by
  rw [wireValue, if_neg (by simpa using full)]

theorem wireValue_of_isText (verbatim : v.type.isText = true) : v.wireValue = v.effectiveValue := by
  by_cases empty : v.effectiveValue = ""
  · rw [wireValue_of_empty empty, empty]
  · rw [wireValue_of_full empty, VarType.wireText, VarType.coerce?_of_isText verbatim,
      Option.getD_some, ite_self]

theorem shows_of_declare (h : declare name value kind c = .ok v) (full : v.effectiveValue ≠ "") :
    v.type.Shows v.effectiveValue v.wireValue := by
  obtain ⟨checked, rfl⟩ := declare_ok_iff.mp h
  rw [wireValue_of_full full]
  exact (checked.effective full).2

theorem wireValue_eq_empty_iff (h : declare name value kind c = .ok v) :
    v.wireValue = "" ↔ v.effectiveValue = "" := by
  refine ⟨fun shown => ?_, wireValue_of_empty⟩
  by_contra full
  exact (shows_of_declare h full).ne_empty full shown

theorem hasMacro_wireValue (h : declare name value kind c = .ok v) :
    Macro.hasMacro v.wireValue = Macro.hasMacro v.effectiveValue := by
  by_cases empty : v.effectiveValue = ""
  · rw [wireValue_of_empty empty, empty]
  · exact (shows_of_declare h empty).hasMacro_eq

/-- Every text in the payload of a variable is one that its declaration checked. -/
structure Covered (v : Variable) (payload : Json) : Prop where
  field : payload.text? "value" = some v.wireValue
  value : (v.effectiveValue = "" ∧ v.wireValue = "") ∨ v.type.Shows v.effectiveValue v.wireValue
  choices : ∀ choices, v.kind = .options choices →
    ∃ shown, payload.within? ["options", "choices"] = some (.ofStrings shown) ∧
      List.Forall₂ v.type.Shows choices shown ∧ (v.wireValue = "" ∨ v.wireValue ∈ shown)
  given : v.isMandatory = true → v.kind.isComputed = false → v.isRuntime = false →
    v.wireValue ≠ ""

theorem wireValue_chosen {choices : List String}
    (h : declare name value (.options choices) c = .ok v) :
    v.wireValue = "" ∨ v.wireValue ∈ choices.map v.type.wireText := by
  by_cases empty : v.effectiveValue = ""
  · exact .inl (wireValue_of_empty empty)
  · obtain ⟨checked, rfl⟩ := declare_ok_iff.mp h
    have chosen : effective value c.default ∈ choices := checked.ofKind.2.2.resolve_left empty
    rw [wireValue_of_full empty]
    exact .inr (List.mem_map_of_mem chosen)

theorem shows_choices {choices : List String}
    (h : declare name value (.options choices) c = .ok v) :
    List.Forall₂ v.type.Shows choices (choices.map v.type.wireText) := by
  obtain ⟨checked, rfl⟩ := declare_ok_iff.mp h
  rw [List.forall₂_map_right_iff, List.forall₂_same]
  exact checked.ofKind.2.1

theorem declare_covered (h : declare name value kind c = .ok v) (id : Uuid) :
    v = ofParts name value kind c ∧ Covered v (v.payload id) := by
  refine ⟨eq_ofParts h, text?_value v id, ?_, ?_, ?_⟩
  · by_cases empty : v.effectiveValue = ""
    · exact .inl ⟨empty, wireValue_of_empty empty⟩
    · exact .inr (shows_of_declare h empty)
  · intro choices options
    have own : kind = .options choices := by
      rw [← options]
      exact (congrArg Variable.kind (eq_ofParts h)).symm
    subst own
    exact ⟨_, within?_choices options id, shows_choices h, wireValue_chosen h⟩
  · intro mandatory computed runtime
    rw [ne_eq, wireValue_eq_empty_iff h]
    obtain ⟨checked, rfl⟩ := declare_ok_iff.mp h
    rcases checked.given mandatory with full | isComputed | isRuntime
    · exact full
    · exact absurd (computed.symm.trans isComputed) (by decide)
    · exact absurd (runtime.symm.trans isRuntime) (by decide)

/-- The number of replicas that a user may choose from three, with zeros before one of them. -/
theorem declare_covered_replicas :
    ∃ v, declare "REPLICAS" "" (.options ["1", "02", "@@{most}@@"])
        { type := .int, isMandatory := true, default := some "02" } = .ok v ∧
      v.wireValue = "2" ∧ Covered v (v.payload .nil) := by
  obtain ⟨v, declared, wire⟩ := ok_of_test (x := declare "REPLICAS" ""
    (.options ["1", "02", "@@{most}@@"])
    { type := .int, isMandatory := true, default := some "02" })
    (P := fun v => v.wireValue = "2") (by decide +kernel)
  exact ⟨v, declared, wire, (declare_covered declared .nil).2⟩

/-! ### The pattern -/

theorem matches_of_declare {r : String} (h : declare name value kind c = .ok v)
    (pattern : c.regex = some r) (full : v.effectiveValue ≠ "")
    (plain : Macro.hasMacro v.effectiveValue = false) :
    ∃ re, Regex.wholeText? r = some re ∧ re.test v.effectiveValue = true := by
  obtain ⟨checked, rfl⟩ := declare_ok_iff.mp h
  obtain ⟨re, read⟩ := Option.isSome_iff_exists.mp (checked.pattern r pattern)
  refine ⟨re, read, ?_⟩
  rcases (checked.effective full).1 with opens | tested
  · exact absurd (plain.symm.trans opens) (by decide)
  · exact tested re (by rw [pattern, Option.bind_some, read]; rfl)

/-- What the payload shows matches the pattern exactly if it could be declared as it is shown. -/
theorem test_wireValue_iff {r : String} {re : Regex} (h : declare name value kind c = .ok v)
    (pattern : c.regex = some r) (read : Regex.wholeText? r = some re)
    (full : v.effectiveValue ≠ "") (plain : Macro.hasMacro v.effectiveValue = false) :
    re.test v.wireValue = true ↔
      ∃ w, declare name v.wireValue .simple { c with default := none } = .ok w := by
  have shows : c.type.Shows v.effectiveValue v.wireValue := by
    have own : v.type = c.type := congrArg Variable.type (eq_ofParts h)
    rw [← own]
    exact shows_of_declare h full
  have opens : Macro.hasMacro v.wireValue = false := (hasMacro_wireValue h).trans plain
  have matched : Matches (c.regex.bind Regex.wholeText?) v.wireValue ↔
      re.test v.wireValue = true := by
    rw [pattern, Option.bind_some, read, Matches, opens]
    simp
  let own : Constraints := { c with default := none }
  have alone : Checked name v.wireValue .simple own ↔ Text.isIdentifier name = true ∧
      (∀ r ∈ own.regex, (Regex.wholeText? r).isSome = true) ∧
      Matches (own.regex.bind Regex.wholeText?) v.wireValue ∧
      own.type.Shows v.wireValue (own.type.wireText v.wireValue) :=
    checked_simple_iff (shows.ne_empty full) rfl
  have checked : Checked name value kind c := checked_of_declare h
  constructor
  · intro tested
    refine ⟨_, declare_ok_iff.mpr ⟨alone.mpr ?_, rfl⟩⟩
    exact ⟨checked.identifier, checked.pattern, matched.mpr tested, shows.again.self⟩
  · rintro ⟨w, declared⟩
    obtain ⟨-, -, accepted, -⟩ := alone.mp (checked_of_declare declared)
    exact matched.mp accepted

/-- The pattern holds of the text as it is written. What the payload shows beside the pattern is
the canonical text, which matches if the value was written so, and otherwise exactly if the
declaration would take the canonical text too. -/
theorem declare_pattern {r : String} (h : declare name value kind c = .ok v)
    (pattern : c.regex = some r) (full : v.effectiveValue ≠ "")
    (plain : Macro.hasMacro v.effectiveValue = false) (id : Uuid) :
    (v.payload id).get? "regex" = some (validated r) ∧
      (v.payload id).text? "value" = some v.wireValue ∧
      v.type.coerce? v.effectiveValue = some v.wireValue ∧
      ∃ re, Regex.wholeText? r = some re ∧ re.test v.effectiveValue = true ∧
        (v.type.isText = true ∨ v.type.coerce? v.effectiveValue = some v.effectiveValue →
          re.test v.wireValue = true) ∧
        (re.test v.wireValue = true ↔
          ∃ w, declare name v.wireValue .simple { c with default := none } = .ok w) := by
  have shown : v.type.coerce? v.effectiveValue = some v.wireValue :=
    (shows_of_declare h full).coerced_of plain
  have carried : v.regex = some r := (congrArg Variable.regex (eq_ofParts h)).trans pattern
  obtain ⟨re, read, tested⟩ := matches_of_declare h pattern full plain
  refine ⟨by rw [get?_regex, carried, Option.map_some], text?_value v id, shown, re, read, tested,
    ?_, test_wireValue_iff h pattern read full plain⟩
  intro canonical
  have same : v.wireValue = v.effectiveValue := by
    rcases canonical with verbatim | canonical
    · exact wireValue_of_isText verbatim
    · exact Option.some.inj (shown.symm.trans canonical)
  rw [same]
  exact tested

theorem declare_pattern_port :
    ∃ v, declare "PORT" "8080" .simple { type := .int, regex := some "[0-9]+" } = .ok v ∧
      (v.effectiveValue ≠ "" ∧ Macro.hasMacro v.effectiveValue = false) ∧
      ∃ re, Regex.wholeText? "[0-9]+" = some re ∧ re.test v.wireValue = true := by
  obtain ⟨v, declared, full, plain, canonical⟩ := ok_of_test
    (x := declare "PORT" "8080" .simple { type := .int, regex := some "[0-9]+" })
    (P := fun v => v.effectiveValue ≠ "" ∧ Macro.hasMacro v.effectiveValue = false ∧
      v.type.coerce? v.effectiveValue = some v.effectiveValue) (by decide +kernel)
  obtain ⟨-, -, -, re, read, -, holds, -⟩ := declare_pattern declared rfl full plain .nil
  exact ⟨v, declared, ⟨full, plain⟩, re, read, holds (.inr canonical)⟩

/-- The value is written with a zero, as the pattern asks, and shown without. -/
theorem port_mismatch :
    ∃ v re, declare "PORT" "042" .simple { type := .int, regex := some "0[0-9]+" } = .ok v ∧
      (v.effectiveValue ≠ "" ∧ Macro.hasMacro v.effectiveValue = false) ∧
      (v.payload .nil).get? "regex" = some (validated "0[0-9]+") ∧
      (v.payload .nil).text? "value" = some "42" ∧
      Regex.wholeText? "0[0-9]+" = some re ∧ re.test "42" = false := by
  obtain ⟨v, declared, full, plain, regex, shown⟩ := ok_of_test
    (x := declare "PORT" "042" .simple { type := .int, regex := some "0[0-9]+" })
    (P := fun v => v.effectiveValue ≠ "" ∧ Macro.hasMacro v.effectiveValue = false ∧
      v.regex = some "0[0-9]+" ∧ v.wireValue = "42") (by decide +kernel)
  have fails : (Regex.wholeText? "0[0-9]+").any (fun re => !re.test "42") = true := by
    decide +kernel
  obtain ⟨re, read, fails⟩ := (Option.any_eq_true _ _).mp fails
  refine ⟨v, re, declared, ⟨full, plain⟩, ?_, ?_, read, by simpa using fails⟩
  · rw [get?_regex, regex, Option.map_some]
  · rw [text?_value, shown]

/-- A text of each type that its canonical text differs from, where there is one. -/
def loose : VarType → String
  | .int => "042"
  | .date => "1/2/2024"
  | .time => "7:05"
  | .datetime => "1/2/2024 - 7:05"
  | .string | .multiline => ""

/-- With its own text as the pattern, a loose text is declared and not shown. -/
theorem loose_mismatch {t : VarType} (typed : t.isText = false) :
    ∃ v re, declare "x" (loose t) .simple { type := t, regex := some (loose t) } = .ok v ∧
      v.effectiveValue ≠ "" ∧ Macro.hasMacro v.effectiveValue = false ∧
      Regex.wholeText? (loose t) = some re ∧ re.test v.wireValue = false := by
  have tested : ∀ t ∈ VarType.all, t.isText = false →
      ((declare "x" (loose t) .simple { type := t, regex := some (loose t) }).toOption.any fun v =>
        decide (v.effectiveValue ≠ "" ∧ Macro.hasMacro v.effectiveValue = false ∧
          (Regex.wholeText? (loose t)).any (fun re => !re.test v.wireValue) = true)) = true := by
    decide +kernel
  have mem : t ∈ VarType.all := by cases t <;> decide
  obtain ⟨v, declared, full, plain, fails⟩ := ok_of_test (tested t mem typed)
  obtain ⟨re, read, fails⟩ := (Option.any_eq_true _ _).mp fails
  exact ⟨v, re, declared, full, plain, read, by simpa using fails⟩

/-- Whatever the pattern, only the values of texts are sure to match it in the payload. -/
theorem pattern_kept_iff (t : VarType) :
    (∀ {name value kind c v r re}, c.type = t → declare name value kind c = .ok v →
      c.regex = some r → Regex.wholeText? r = some re → v.effectiveValue ≠ "" →
      Macro.hasMacro v.effectiveValue = false → re.test v.wireValue = true) ↔
      t.isText = true := by
  constructor
  · intro kept
    by_contra typed
    obtain ⟨v, re, declared, full, plain, read, fails⟩ :=
      loose_mismatch (Bool.eq_false_iff.mpr typed)
    have holds : re.test v.wireValue = true := kept rfl declared rfl read full plain
    exact absurd (fails.symm.trans holds) (by decide)
  · intro verbatim name value kind c v r re type h pattern read full plain
    obtain ⟨re', read', tested⟩ := matches_of_declare h pattern full plain
    obtain rfl : re' = re := Option.some.inj (read'.symm.trans read)
    have own : v.type = t := (congrArg Variable.type (eq_ofParts h)).trans type
    rw [wireValue_of_isText (own ▸ verbatim)]
    exact tested

/-! ### Secrets -/

theorem isSecret_iff : kind.isSecret = true ↔
    kind = .secret ∨ ∃ source, kind = .computed source true := by
  cases kind with
  | simple | options choices => simp [VarKind.isSecret]
  | secret => simp [VarKind.isSecret]
  | computed source secret => simp [VarKind.isSecret]

/-- The opt-in is read for the kind `secret` and for no other. -/
theorem declare_plaintext {b : Bool} (other : kind ≠ .secret) :
    declare name value kind { c with plaintext := b } = declare name value kind c := by
  cases kind with
  | secret => exact absurd rfl other
  | simple | options choices => rfl
  | computed source secret => cases source <;> rfl

theorem empty_of_secret (h : declare name value .secret c = .ok v) (closed : c.plaintext = false) :
    v.value = "" ∧ v.default = none ∧ v.wireValue = "" := by
  obtain ⟨checked, rfl⟩ := declare_ok_iff.mp h
  rcases checked.ofKind with opted | ⟨rfl, alone⟩
  · exact absurd (closed.symm.trans opted) (by decide)
  · refine ⟨rfl, alone, wireValue_of_empty ?_⟩
    change effective "" c.default = ""
    rw [alone]
    rfl

/-- Without the opt-in the payload holds nothing for the kind `secret`. For the other secrets, which
are computed, it holds what was declared, and the opt-in makes no difference. -/
theorem declare_secret (h : declare name value kind c = .ok v) (secret : v.isSecret = true)
    (closed : c.plaintext = false) (id : Uuid) :
    (v.payload id).text? "value" = some v.wireValue ∧
      (kind = .secret → v.value = "" ∧ v.default = none ∧ v.wireValue = "") ∧
      (kind ≠ .secret → ∃ source, kind = .computed source true ∧
        ∀ opted, declare name value kind { c with plaintext := opted } = .ok v) ∧
      ((v.wireValue = "" ∨ Macro.hasMacro v.wireValue = true) ↔
        v.effectiveValue = "" ∨ Macro.hasMacro v.effectiveValue = true) := by
  refine ⟨text?_value v id, ?_, ?_, ?_⟩
  · rintro rfl
    exact empty_of_secret h closed
  · intro other
    have own : v.kind = kind := congrArg Variable.kind (eq_ofParts h)
    rw [isSecret, own] at secret
    rcases isSecret_iff.mp secret with plain | ⟨source, computed⟩
    · exact absurd plain other
    · exact ⟨source, computed, fun opted => (declare_plaintext other).trans h⟩
  · rw [wireValue_eq_empty_iff h, hasMacro_wireValue h]

theorem declare_secret_password :
    ∃ v, declare "PASSWORD" "" .secret {} = .ok v ∧ v.isSecret = true ∧ v.wireValue = "" := by
  obtain ⟨v, declared, secret⟩ := ok_of_test (x := declare "PASSWORD" "" .secret {})
    (P := fun v => v.isSecret = true) (by decide +kernel)
  obtain ⟨-, empty, -⟩ := declare_secret declared secret rfl .nil
  exact ⟨v, declared, secret, (empty rfl).2.2⟩

/-- A computed secret with a literal value is declared without the opt-in and shown. -/
theorem token_literal :
    ∃ v, declare "TOKEN" "hunter2" (.computed (.script ⟨.sh, "vault read"⟩) true) {} = .ok v ∧
      v.isSecret = true ∧ (v.payload .nil).text? "type" = some "EXEC_SECRET" ∧
      (v.payload .nil).text? "value" = some "hunter2" ∧
      ¬("hunter2" = "" ∨ Macro.hasMacro "hunter2" = true) := by
  obtain ⟨v, declared, secret, type, shown⟩ := ok_of_test
    (x := declare "TOKEN" "hunter2" (.computed (.script ⟨.sh, "vault read"⟩) true) {})
    (P := fun v => v.isSecret = true ∧ v.wireType = "EXEC_SECRET" ∧ v.wireValue = "hunter2")
    (by decide +kernel)
  exact ⟨v, declared, secret, congrArg some type, congrArg some shown, by decide⟩

end Blueprint.Variable
