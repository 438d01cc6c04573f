import Blueprint.Proofs.Except
import Blueprint.Proofs.Variable.Coerce
import Blueprint.Variable.Declare

/-!
# What a declaration checks

`Checked` says what holds of the parts of a variable when `declare` accepts them, and that nothing
else is asked: `declare_ok_iff`. A text passes the check of its type if it can be shown; `Shows` is
the way in which the payload shows it.
-/

namespace Blueprint

/-- A macro is shown as it is written, any other text is coerced. -/
inductive VarType.Shows (t : VarType) (text shown : String) : Prop where
  | verbatim (opens : Macro.hasMacro text = true) (same : shown = text)
  | coerced (plain : Macro.hasMacro text = false) (value : t.coerce? text = some shown)

namespace VarType

variable {t : VarType} {text shown : String}

theorem Shows.wireText_eq (shows : t.Shows text shown) : t.wireText text = shown := by
  rw [wireText]
  cases shows with
  | verbatim opens same => rw [if_pos opens, same]
  | coerced plain value => rw [if_neg (by simp [plain]), value, Option.getD_some]

theorem Shows.self (shows : t.Shows text shown) : t.Shows text (t.wireText text) := by
  rw [shows.wireText_eq]
  exact shows

theorem Shows.ne_empty (shows : t.Shows text shown) (full : text ≠ "") : shown ≠ "" := by
  cases shows with
  | verbatim opens same => exact same ▸ full
  | coerced plain value => exact shown_ne_empty value full

theorem Shows.coerced_of (shows : t.Shows text shown) (plain : Macro.hasMacro text = false) :
    t.coerce? text = some shown := by
  cases shows with
  | verbatim opens => simp [plain] at opens
  | coerced _ value => exact value

theorem Shows.hasMacro_eq (shows : t.Shows text shown) :
    Macro.hasMacro shown = Macro.hasMacro text := by
  cases shows with
  | verbatim opens same => rw [same]
  | coerced plain value => rw [plain, hasMacro_shown value plain]

/-- What is shown is shown again as it is. -/
theorem Shows.again (shows : t.Shows text shown) : t.Shows shown shown := by
  cases shows with
  | verbatim opens same => exact .verbatim (same ▸ opens) rfl
  | coerced plain value => exact .coerced (hasMacro_shown value plain) (coerce?_shown value)

end VarType

namespace Variable

variable {name value : String} {kind : VarKind} {c : Constraints} {v : Variable}

/-! ### Single checks -/

theorem require_ok_iff {ok : Bool} {fault : ValidationFault} :
    require ok fault = .ok () ↔ ok = true := by
  cases ok <;> simp [require]

theorem bind_check_iff {x y : Check} : (x >>= fun _ => y) = .ok () ↔ x = .ok () ∧ y = .ok () := by
  cases x with
  | error e => simp [bind, Except.bind]
  | ok u => exact ⟨fun h => ⟨rfl, h⟩, And.right⟩

theorem forM_check_iff {texts : List String} {f : String → Check} :
    texts.forM f = .ok () ↔ ∀ text ∈ texts, f text = .ok () :=
  ⟨forM_ok, forM_eq_ok⟩

theorem checkType_ok_iff {t : VarType} {text : String} :
    checkType t text = .ok () ↔ t.Shows text (t.wireText text) := by
  unfold checkType
  cases opens : Macro.hasMacro text with
  | true => exact ⟨fun _ => (VarType.Shows.verbatim opens rfl).self, fun _ => rfl⟩
  | false =>
    cases coerced : t.coerce? text with
    | none =>
      have refused : t.coerce text = .error ⟨t, text⟩ := by rw [VarType.coerce, coerced]
      rw [refused]
      refine ⟨fun h => by simp at h, fun shows => ?_⟩
      have shown := shows.coerced_of opens
      rw [coerced] at shown
      cases shown
    | some shown =>
      rw [VarType.coerce_eq_ok_iff.mpr coerced]
      exact ⟨fun _ => (VarType.Shows.coerced opens coerced).self, fun _ => rfl⟩

/-- A text matches a compiled pattern, or a macro in it leaves that to the server. -/
def Matches (pattern : Option Regex) (text : String) : Prop :=
  Macro.hasMacro text = true ∨ ∀ re ∈ pattern, re.test text = true

theorem checkText_ok_iff {pattern : Option Regex} {t : VarType} {text : String} :
    checkText pattern t text = .ok () ↔
      Matches pattern text ∧ t.Shows text (t.wireText text) := by
  have tested : pattern.all (·.test text) = true ↔ ∀ re ∈ pattern, re.test text = true := by
    cases pattern <;> simp
  rw [checkText, bind_check_iff, require_ok_iff, checkType_ok_iff, Bool.or_eq_true, tested]
  rfl

theorem compile?_ok_iff {regex : Option String} {pattern : Option Regex} :
    compile? regex = .ok pattern ↔ pattern = regex.bind Regex.wholeText? ∧
      ∀ r ∈ regex, (Regex.wholeText? r).isSome = true := by
  cases regex with
  | none =>
    simp only [compile?, Except.ok.injEq, Option.bind_none]
    exact ⟨fun same => ⟨same.symm, nofun⟩, fun h => h.1.symm⟩
  | some r =>
    cases read : Regex.wholeText? r with
    | none => simp [compile?, read]
    | some re =>
      simp only [compile?, read, Except.ok.injEq, Option.bind_some, Option.mem_some_iff]
      refine ⟨fun same => ⟨same.symm, ?_⟩, fun h => h.1.symm⟩
      rintro r' rfl
      rw [read]
      rfl

/-! ### The checks of each kind -/

def KindChecked (value : String) (c : Constraints) : VarKind → Prop
  | .simple => True
  | .secret => c.plaintext = true ∨ value = "" ∧ c.default = none
  | .options choices =>
    choices ≠ [] ∧ (∀ choice ∈ choices, c.type.Shows choice (c.type.wireText choice)) ∧
      (effective value c.default = "" ∨ effective value c.default ∈ choices)
  | .computed (.script s) _ => Text.blankText s.text = false
  | .computed (.http _ url _) _ => Text.blankText url = false

theorem checkKind_ok_iff : checkKind value c kind = .ok () ↔ KindChecked value c kind := by
  cases kind with
  | simple => exact ⟨fun _ => trivial, fun _ => rfl⟩
  | secret => simp [checkKind, require_ok_iff, KindChecked]
  | options choices =>
    simp only [checkKind, bind_check_iff, require_ok_iff, forM_check_iff, checkType_ok_iff,
      KindChecked]
    simp
  | computed source secret =>
    cases source with
    | script s => simp [checkKind, require_ok_iff, KindChecked]
    | http method url responsePath => simp [checkKind, require_ok_iff, KindChecked]

/-! ### The whole declaration -/

/-- What `declare` asks of the parts of a variable. -/
structure Checked (name value : String) (kind : VarKind) (c : Constraints) : Prop where
  identifier : Text.isIdentifier name = true
  pattern : ∀ r ∈ c.regex, (Regex.wholeText? r).isSome = true
  texts : ∀ text ∈ candidates value c.default,
    Matches (c.regex.bind Regex.wholeText?) text ∧ c.type.Shows text (c.type.wireText text)
  ofKind : KindChecked value c kind
  given : c.isMandatory = true →
    effective value c.default ≠ "" ∨ kind.isComputed = true ∨ c.isRuntime = true

theorem check_ok_iff : check name value kind c = .ok () ↔ Checked name value kind c := by
  have given : (!c.isMandatory || !(effective value c.default).isEmpty || kind.isComputed ||
      c.isRuntime) = true ↔ (c.isMandatory = true →
        effective value c.default ≠ "" ∨ kind.isComputed = true ∨ c.isRuntime = true) := by
    cases c.isMandatory <;> simp [or_assoc]
  constructor
  · intro h
    obtain ⟨identifier, h⟩ := bind_check_iff.mp h
    obtain ⟨pattern, compiled, h⟩ := bind_ok h
    obtain ⟨rfl, read⟩ := compile?_ok_iff.mp compiled
    obtain ⟨texts, h⟩ := bind_check_iff.mp h
    obtain ⟨kinds, h⟩ := bind_check_iff.mp h
    exact ⟨require_ok_iff.mp identifier, read,
      fun text mem => checkText_ok_iff.mp (forM_ok texts text mem), checkKind_ok_iff.mp kinds,
      given.mp (require_ok_iff.mp h)⟩
  · intro checked
    have compiled : compile? c.regex = .ok (c.regex.bind Regex.wholeText?) :=
      compile?_ok_iff.mpr ⟨rfl, checked.pattern⟩
    unfold check
    rw [bind_check_iff, require_ok_iff, compiled, ok_bind, bind_check_iff, forM_check_iff,
      bind_check_iff, checkKind_ok_iff, require_ok_iff, given]
    exact ⟨checked.identifier, fun text mem => checkText_ok_iff.mpr (checked.texts text mem),
      checked.ofKind, checked.given⟩

/-- The variable that a declaration makes of its parts. -/
def ofParts (name value : String) (kind : VarKind) (c : Constraints) : Variable where
  name := name
  value := value
  kind := kind
  type := c.type
  isRuntime := c.isRuntime
  isMandatory := c.isMandatory
  isHidden := c.isHidden
  regex := c.regex
  default := c.default
  description := c.description
  label := c.label

theorem declare_ok_iff : declare name value kind c = .ok v ↔
    Checked name value kind c ∧ v = ofParts name value kind c := by
  rw [← check_ok_iff, declare]
  cases check name value kind c with
  | error fault => simp
  | ok u => exact ⟨fun h => ⟨rfl, (Except.ok.inj h).symm⟩, fun h => congrArg Except.ok h.2.symm⟩

theorem checked_of_declare (h : declare name value kind c = .ok v) : Checked name value kind c :=
  (declare_ok_iff.mp h).1

theorem eq_ofParts (h : declare name value kind c = .ok v) : v = ofParts name value kind c :=
  (declare_ok_iff.mp h).2

/-! ### The effective value -/

theorem effective_mem_candidates {default : Option String} (full : effective value default ≠ "") :
    effective value default ∈ candidates value default := by
  rw [candidates, List.mem_filter]
  refine ⟨?_, by simpa using full⟩
  unfold effective at full ⊢
  split
  next empty =>
    rw [if_pos empty] at full
    cases default with
    | none => exact absurd rfl full
    | some d => simp
  · exact List.mem_cons_self

/-- An accepted value that is not empty can be shown, and matches the pattern if there is one. -/
theorem Checked.effective (checked : Checked name value kind c)
    (full : effective value c.default ≠ "") :
    Matches (c.regex.bind Regex.wholeText?) (effective value c.default) ∧
      c.type.Shows (effective value c.default) (c.type.wireText (effective value c.default)) :=
  checked.texts _ (effective_mem_candidates full)

/-- A text by itself is accepted if it matches the pattern and can be shown. -/
theorem checked_simple_iff (full : value ≠ "") (alone : c.default = none) :
    Checked name value .simple c ↔ Text.isIdentifier name = true ∧
      (∀ r ∈ c.regex, (Regex.wholeText? r).isSome = true) ∧
      Matches (c.regex.bind Regex.wholeText?) value ∧ c.type.Shows value (c.type.wireText value) := by
  have texts : candidates value c.default = [value] := by simp [candidates, alone, full]
  have itself : effective value c.default = value := by
    rw [effective, if_neg (by simpa using full)]
  constructor
  · intro checked
    exact ⟨checked.identifier, checked.pattern, checked.texts value (by simp [texts])⟩
  · rintro ⟨identifier, pattern, accepted⟩
    refine ⟨identifier, pattern, ?_, trivial, fun _ => .inl ?_⟩
    · rw [texts]
      exact List.forall_mem_singleton.mpr accepted
    · rw [itself]
      exact full

end Variable

end Blueprint
