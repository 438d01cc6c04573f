import Blueprint.Proofs.Calendar
import Blueprint.Variable.Basic

/-!
# Canonical texts

A text of a type is coerced to the canonical text of its value. That text is its own canonical
text, it is not empty, and it opens no macro. Strings of either kind stay as they are written.
-/

namespace Blueprint

/-- Without an at sign there is no macro. -/
theorem Macro.hasMacro_eq_false {s : String} (none : '@' ∉ s.toList) : Macro.hasMacro s = false := by
  rw [Macro.hasMacro, Text.occurs]
  cases found : Text.cut? Macro.opener s.toList with
  | none => rfl
  | some parts =>
    obtain ⟨before, after⟩ := parts
    have whole : s.toList = before ++ Macro.opener ++ after := Text.cut?_eq_some found
    refine absurd ?_ none
    rw [whole]
    simp [Macro.opener]

namespace VarType

variable {t : VarType} {text shown : String}

/-- The types whose values are any texts. -/
def isText : VarType → Bool
  | string | multiline => true
  | int | date | time | datetime => false

theorem coerce?_of_isText (verbatim : t.isText = true) (text : String) :
    t.coerce? text = some text := by
  cases t with
  | string | multiline => rfl
  | int | date | time | datetime => cases verbatim

theorem coerce_eq_ok_iff : t.coerce text = .ok shown ↔ t.coerce? text = some shown := by
  rw [coerce]
  cases t.coerce? text with
  | none => simp
  | some r => simp

/-! ### The canonical text of a value -/

theorem trimChars_toString (i : Int) :
    Text.trimChars (toString i).toList = (toString i).toList := by
  apply Text.trimChars_of_plain
  intro c mem
  rcases Text.mem_toString mem with digit | rfl
  · exact Text.isBlank_of_digit digit
  · decide

/-- What the payload shows is shown again as it is. -/
theorem coerce?_shown (h : t.coerce? text = some shown) : t.coerce? shown = some shown := by
  cases t with
  | string | multiline => rfl
  | int =>
    obtain ⟨i, read, rfl⟩ := Option.map_eq_some_iff.mp h
    have inside : Text.inInt64 i = true := (Option.filter_eq_some_iff.mp read).2
    simp only [coerce?, trimChars_toString, Text.int64?_toString inside, Option.map_some]
  | date =>
    obtain ⟨d, read, rfl⟩ := Option.map_eq_some_iff.mp h
    simp only [coerce?, Calendar.Day.trimChars_text,
      Calendar.day?_text (Calendar.valid_of_day? read), Option.map_some]
  | time =>
    obtain ⟨m, read, rfl⟩ := Option.map_eq_some_iff.mp h
    simp only [coerce?, Calendar.Minute.trimChars_text,
      Calendar.minute?_text (Calendar.valid_of_minute? read), Option.map_some]
  | datetime =>
    obtain ⟨⟨d, m⟩, read, rfl⟩ := Option.map_eq_some_iff.mp h
    obtain ⟨day, minute⟩ := Calendar.valid_of_both? read
    simp only [coerce?, Calendar.trimChars_bothText, Calendar.both?_text day minute,
      Option.map_some]

/-! ### The characters of a canonical text -/

theorem isMark_of_mem_shown (typed : t.isText = false) (h : t.coerce? text = some shown) {c : Char}
    (mem : c ∈ shown.toList) : Calendar.isMark c = true := by
  cases t with
  | string | multiline => cases typed
  | int =>
    obtain ⟨i, -, rfl⟩ := Option.map_eq_some_iff.mp h
    rcases Text.mem_toString mem with digit | rfl
    · simp [Calendar.isMark, digit]
    · decide
  | date =>
    obtain ⟨d, -, rfl⟩ := Option.map_eq_some_iff.mp h
    exact Calendar.Day.isMark_of_mem_text mem
  | time =>
    obtain ⟨m, -, rfl⟩ := Option.map_eq_some_iff.mp h
    exact Calendar.Minute.isMark_of_mem_text mem
  | datetime =>
    obtain ⟨⟨d, m⟩, -, rfl⟩ := Option.map_eq_some_iff.mp h
    exact Calendar.isMark_of_mem_bothText mem

theorem hasMacro_shown (h : t.coerce? text = some shown) (plain : Macro.hasMacro text = false) :
    Macro.hasMacro shown = false := by
  by_cases verbatim : t.isText = true
  · rw [coerce?_of_isText verbatim] at h
    obtain rfl := Option.some.inj h
    exact plain
  · apply Macro.hasMacro_eq_false
    intro sign
    have mark : Calendar.isMark '@' = true :=
      isMark_of_mem_shown (Bool.eq_false_iff.mpr verbatim) h sign
    exact absurd mark (by decide)

/-- The empty text is a value of no type but the texts, and only texts are shown as it. -/
theorem coerce?_empty (typed : t.isText = false) : t.coerce? "" = none := by
  cases t with
  | string | multiline => cases typed
  | int | date | time | datetime => rfl

theorem shown_ne_empty (h : t.coerce? text = some shown) (full : text ≠ "") : shown ≠ "" := by
  by_cases verbatim : t.isText = true
  · rw [coerce?_of_isText verbatim] at h
    obtain rfl := Option.some.inj h
    exact full
  · rintro rfl
    have again : t.coerce? "" = some "" := coerce?_shown h
    rw [coerce?_empty (Bool.eq_false_iff.mpr verbatim)] at again
    cases again

end VarType

end Blueprint
