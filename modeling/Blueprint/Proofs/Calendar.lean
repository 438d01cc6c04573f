import Blueprint.Calendar
import Blueprint.Proofs.Text.Digits

/-!
# Days and minutes read back

The readers are lenient and each value has one text. Read back, that text is the value it was
written for, whatever stands behind it.
-/

namespace Blueprint.Calendar

open Text (isDigit isBlank padded)

/-! ### Numbers -/

theorem isDigit_of_first {width n : Nat} {rest : List Char} {c : Char}
    (first : ((padded width n).toList ++ rest).head? = some c) : isDigit c = true := by
  cases digits : (padded width n).toList with
  | nil => exact absurd digits (Text.padded_ne_nil width n)
  | cons d ds =>
    rw [digits] at first
    obtain rfl := Option.some.inj first
    have mem : d ∈ (padded width n).toList := by
      rw [digits]
      exact List.mem_cons_self
    exact Text.isDigit_of_mem_padded mem

theorem dropBlanks_padded (width n : Nat) (rest : List Char) :
    Text.dropBlanks ((padded width n).toList ++ rest) = (padded width n).toList ++ rest := by
  apply Text.dropBlanks_eq_self
  intro c first
  exact Text.isBlank_of_digit (isDigit_of_first first)

theorem number?_padded {width n : Nat} (positive : 0 < width) (small : n < 10 ^ width)
    (rest : List Char) : number? width ((padded width n).toList ++ rest) = some (n, rest) := by
  have long : (padded width n).toList.length = width := Text.length_padded positive small
  have taken : ((padded width n).toList ++ rest).take width = (padded width n).toList :=
    List.take_left' long
  have digits : (padded width n).toList.takeWhile isDigit = (padded width n).toList := by
    rw [List.takeWhile_eq_self_iff]
    intro c mem
    exact Text.isDigit_of_mem_padded mem
  rw [number?, dropBlanks_padded, taken, digits, Text.natural?_padded, List.drop_left]
  rfl

theorem year?_padded {n : Nat} (small : n < 10 ^ 4) (rest : List Char) :
    year? ((padded 4 n).toList ++ rest) = some (n, rest) := by
  have number : number? 4 ((padded 4 n).toList ++ rest) = some (n, rest) :=
    number?_padded (by decide) small rest
  unfold year?
  rw [dropBlanks_padded]
  split
  next r signed =>
    -- a plus is no digit
    have first : ((padded 4 n).toList ++ rest).head? = some '+' := by rw [signed]; rfl
    exact absurd (isDigit_of_first first) (by decide)
  · exact number

/-! ### Texts -/

theorem Day.toList_text (d : Day) (rest : List Char) : d.text.toList ++ rest =
    (padded 2 d.day).toList ++ '/' :: ((padded 2 d.month).toList ++
      '/' :: ((padded 4 d.year).toList ++ rest)) := by
  simp [Day.text]

theorem Minute.toList_text (m : Minute) (rest : List Char) : m.text.toList ++ rest =
    (padded 2 m.hour).toList ++ ':' :: ((padded 2 m.minute).toList ++ rest) := by
  simp [Minute.text]

theorem daysIn_le (month year : Nat) : daysIn month year ≤ 31 := by
  unfold daysIn
  split_ifs <;> decide

theorem takeDay?_text {d : Day} (valid : d.valid = true) (rest : List Char) :
    takeDay? (d.text.toList ++ rest) = some (d, rest) := by
  have most : daysIn d.month d.year ≤ 31 := daysIn_le d.month d.year
  simp only [Day.valid, Bool.and_eq_true, decide_eq_true_eq] at valid
  have day : d.day < 10 ^ 2 := by omega
  have month : d.month < 10 ^ 2 := by omega
  have year : d.year < 10 ^ 4 := by omega
  rw [Day.toList_text]
  simp only [takeDay?, number?_padded (by decide : 0 < 2) day, Option.bind_eq_bind,
    Option.bind_some, mark?, if_pos, number?_padded (by decide : 0 < 2) month, year?_padded year]
  rfl

theorem takeMinute?_text {m : Minute} (valid : m.valid = true) (rest : List Char) :
    takeMinute? (m.text.toList ++ rest) = some (m, rest) := by
  simp only [Minute.valid, Bool.and_eq_true, decide_eq_true_eq] at valid
  have hour : m.hour < 10 ^ 2 := by omega
  have minute : m.minute < 10 ^ 2 := by omega
  rw [Minute.toList_text]
  simp only [takeMinute?, number?_padded (by decide : 0 < 2) hour, Option.bind_eq_bind,
    Option.bind_some, mark?, if_pos, number?_padded (by decide : 0 < 2) minute]
  rfl

theorem day?_text {d : Day} (valid : d.valid = true) : day? d.text.toList = some d := by
  have taken : takeDay? d.text.toList = some (d, []) := by
    simpa only [List.append_nil] using takeDay?_text valid []
  simp [day?, taken, valid]

theorem minute?_text {m : Minute} (valid : m.valid = true) : minute? m.text.toList = some m := by
  have taken : takeMinute? m.text.toList = some (m, []) := by
    simpa only [List.append_nil] using takeMinute?_text valid []
  simp [minute?, taken, valid]

/-- The dash stands between blanks, and the minute is read with the blank before it. -/
theorem takeMinute?_blank (cs : List Char) : takeMinute? (' ' :: cs) = takeMinute? cs := by
  have blank : Text.dropBlanks (' ' :: cs) = Text.dropBlanks cs := rfl
  simp only [takeMinute?, number?, blank]

theorem both?_text {d : Day} {m : Minute} (day : d.valid = true) (minute : m.valid = true) :
    both? (bothText d m).toList = some (d, m) := by
  have text : (bothText d m).toList = d.text.toList ++ ' ' :: '-' :: ' ' :: m.text.toList := by
    simp [bothText]
  have dash : Text.dropBlanks (' ' :: '-' :: ' ' :: m.text.toList) = '-' :: ' ' :: m.text.toList :=
    rfl
  have taken : takeMinute? m.text.toList = some (m, []) := by
    simpa only [List.append_nil] using takeMinute?_text minute []
  simp [both?, text, takeDay?_text day, dash, mark?, takeMinute?_blank, taken, day, minute]

/-! ### Texts and blanks -/

/-- A text between two numbers has no blanks to trim. -/
theorem trimChars_between (width n width' n' : Nat) (inside : List Char) :
    Text.trimChars ((padded width n).toList ++ inside ++ (padded width' n').toList) =
      (padded width n).toList ++ inside ++ (padded width' n').toList := by
  apply Text.trimChars_eq_self
  · intro c first
    rw [List.append_assoc] at first
    exact Text.isBlank_of_digit (isDigit_of_first first)
  · intro c last
    rw [List.getLast?_append] at last
    cases digits : (padded width' n').toList.getLast? with
    | none => exact absurd (List.getLast?_eq_none_iff.mp digits) (Text.padded_ne_nil width' n')
    | some d =>
      rw [digits] at last
      obtain rfl := Option.some.inj last
      exact Text.isBlank_of_digit (Text.isDigit_of_mem_padded (List.mem_of_getLast? digits))

theorem Day.trimChars_text (d : Day) : Text.trimChars d.text.toList = d.text.toList := by
  have text : d.text.toList = (padded 2 d.day).toList ++
      ('/' :: ((padded 2 d.month).toList ++ ['/'])) ++ (padded 4 d.year).toList := by
    simp [Day.text]
  rw [text]
  exact trimChars_between ..

theorem Minute.trimChars_text (m : Minute) : Text.trimChars m.text.toList = m.text.toList := by
  have text : m.text.toList = (padded 2 m.hour).toList ++ [':'] ++ (padded 2 m.minute).toList := by
    simp [Minute.text]
  rw [text]
  exact trimChars_between ..

theorem trimChars_bothText (d : Day) (m : Minute) :
    Text.trimChars (bothText d m).toList = (bothText d m).toList := by
  have text : (bothText d m).toList = (padded 2 d.day).toList ++
      ('/' :: ((padded 2 d.month).toList ++ '/' :: ((padded 4 d.year).toList ++
        ' ' :: '-' :: ' ' :: ((padded 2 m.hour).toList ++ [':'])))) ++
      (padded 2 m.minute).toList := by
    simp [bothText, Day.text, Minute.text]
  rw [text]
  exact trimChars_between ..

/-! ### What is read -/

theorem valid_of_day? {cs : List Char} {d : Day} (h : day? cs = some d) : d.valid = true := by
  obtain ⟨⟨d', r⟩, -, h⟩ := Option.bind_eq_some_iff.mp h
  dsimp only at h
  split at h
  next tested =>
    obtain rfl := Option.some.inj h
    exact (Bool.and_eq_true_iff.mp tested).2
  · cases h

theorem valid_of_minute? {cs : List Char} {m : Minute} (h : minute? cs = some m) :
    m.valid = true := by
  obtain ⟨⟨m', r⟩, -, h⟩ := Option.bind_eq_some_iff.mp h
  dsimp only at h
  split at h
  next tested =>
    obtain rfl := Option.some.inj h
    exact (Bool.and_eq_true_iff.mp tested).2
  · cases h

theorem valid_of_both? {cs : List Char} {d : Day} {m : Minute} (h : both? cs = some (d, m)) :
    d.valid = true ∧ m.valid = true := by
  obtain ⟨⟨d', r⟩, -, h⟩ := Option.bind_eq_some_iff.mp h
  obtain ⟨r', -, h⟩ := Option.bind_eq_some_iff.mp h
  obtain ⟨⟨m', r''⟩, -, h⟩ := Option.bind_eq_some_iff.mp h
  dsimp only at h
  split at h
  next tested =>
    obtain ⟨rfl, rfl⟩ := Prod.mk.inj (Option.some.inj h)
    obtain ⟨tested, minute⟩ := Bool.and_eq_true_iff.mp tested
    exact ⟨(Bool.and_eq_true_iff.mp tested).2, minute⟩
  · cases h

/-! ### Characters -/

/-- The characters of days and minutes. -/
def isMark (c : Char) : Bool := isDigit c || c == '/' || c == ':' || c == '-' || c == ' '

theorem isMark_of_mem_padded {width n : Nat} {c : Char} (mem : c ∈ (padded width n).toList) :
    isMark c = true := by
  simp [isMark, Text.isDigit_of_mem_padded mem]

theorem Day.isMark_of_mem_text {d : Day} {c : Char} (mem : c ∈ d.text.toList) :
    isMark c = true := by
  rw [← List.append_nil d.text.toList, Day.toList_text] at mem
  simp only [List.mem_append, List.mem_cons, List.not_mem_nil, or_false] at mem
  rcases mem with mem | rfl | mem | rfl | mem
  · exact isMark_of_mem_padded mem
  · decide
  · exact isMark_of_mem_padded mem
  · decide
  · exact isMark_of_mem_padded mem

theorem Minute.isMark_of_mem_text {m : Minute} {c : Char} (mem : c ∈ m.text.toList) :
    isMark c = true := by
  rw [← List.append_nil m.text.toList, Minute.toList_text] at mem
  simp only [List.mem_append, List.mem_cons, List.not_mem_nil, or_false] at mem
  rcases mem with mem | rfl | mem
  · exact isMark_of_mem_padded mem
  · decide
  · exact isMark_of_mem_padded mem

theorem isMark_of_mem_bothText {d : Day} {m : Minute} {c : Char}
    (mem : c ∈ (bothText d m).toList) : isMark c = true := by
  simp only [bothText, String.toList_append, List.mem_append] at mem
  rcases mem with (mem | dash) | mem
  · exact Day.isMark_of_mem_text mem
  · have chars : " - ".toList = [' ', '-', ' '] := rfl
    simp only [chars, List.mem_cons, List.not_mem_nil, or_false] at dash
    rcases dash with rfl | rfl | rfl <;> rfl
  · exact Minute.isMark_of_mem_text mem

end Blueprint.Calendar
