import Blueprint.Proofs.Calendar
import Blueprint.Proofs.Text.Numeral

/-!
# Spelled days and minutes

Which texts stand for a day, a minute or both, apart from the readers: numbers of a few digits, each
with blanks before it if need be, and the marks between them. The readers take these texts and no
others (`day?_eq_some_iff`, `minute?_eq_some_iff`, `both?_eq_some_iff`).
-/

namespace Blueprint.Calendar

open Text (Blank Numeral isDigit isBlank dropBlanks)

variable {a cs ds rest blanks : List Char} {n width : Nat} {d : Day} {m : Minute}

/-- A number of at most `width` digits. -/
inductive Short (width : Nat) : List Char → Nat → Prop where
  | mk {blanks ds : List Char} {n : Nat} (blank : Blank blanks) (numeral : Numeral ds n)
      (short : ds.length ≤ width) : Short width (blanks ++ ds) n

/-- Behind a plus a year may have any number of digits. -/
inductive Year : List Char → Nat → Prop where
  | short {cs : List Char} {n : Nat} (number : Short 4 cs n) : Year cs n
  | signed {blanks ds : List Char} {n : Nat} (blank : Blank blanks) (numeral : Numeral ds n) :
      Year (blanks ++ '+' :: ds) n

inductive Dated : List Char → Day → Prop where
  | mk {day month year : List Char} {d : Day} (ofDay : Short 2 day d.day)
      (ofMonth : Short 2 month d.month) (ofYear : Year year d.year) :
      Dated (day ++ '/' :: (month ++ '/' :: year)) d

inductive Timed : List Char → Minute → Prop where
  | mk {hour minute : List Char} {m : Minute} (ofHour : Short 2 hour m.hour)
      (ofMinute : Short 2 minute m.minute) : Timed (hour ++ ':' :: minute) m

/-- A day and a minute with a dash between them. -/
inductive Both : List Char → Day → Minute → Prop where
  | mk {day blanks minute : List Char} {d : Day} {m : Minute} (dated : Dated day d)
      (blank : Blank blanks) (timed : Timed minute m) :
      Both (day ++ (blanks ++ '-' :: minute)) d m

/-! ### Numbers and marks -/

theorem mark?_eq_some {c : Char} {cs rest : List Char} (read : mark? c cs = some rest) :
    c :: rest = cs := by
  cases cs with
  | nil => cases read
  | cons e cs =>
    rw [mark?] at read
    split at read
    · rename_i same
      rw [same, Option.some.inj read]
    · cases read

/-- A number does not go on in the text behind it. -/
def Ends (rest : List Char) : Prop := ∀ c ∈ rest.head?, isDigit c = false

theorem ends_nil : Ends [] := by simp [Ends]

theorem ends_cons {c : Char} (other : isDigit c = false) (rest : List Char) : Ends (c :: rest) := by
  simpa [Ends] using other

theorem Ends.take (ends : Ends rest) (k : Nat) : Ends (rest.take k) := by
  cases k with
  | zero => simpa using ends_nil
  | succ k =>
    cases rest with
    | nil => exact ends_nil
    | cons c rest => exact ends

theorem Ends.append_blank (blank : Blank blanks) (ends : Ends rest) : Ends (blanks ++ rest) := by
  cases blanks with
  | nil => exact ends
  | cons c blanks =>
    apply ends_cons
    by_contra digit
    rw [Bool.not_eq_false] at digit
    have full := Text.isBlank_of_digit digit
    rw [blank c List.mem_cons_self] at full
    cases full

theorem takeWhile_numeral (numeral : Numeral ds n) (ends : Ends rest) :
    (ds ++ rest).takeWhile isDigit = ds := by
  have stop : rest.takeWhile isDigit = [] := by
    cases rest with
    | nil => rfl
    | cons c rest =>
      have other : isDigit c = false := ends c rfl
      rw [List.takeWhile_cons_of_neg (by simp [other])]
  rw [List.takeWhile_append_of_pos numeral.digits, stop, List.append_nil]

theorem exists_first_digit (numeral : Numeral ds n) (rest : List Char) :
    ∃ c r, ds ++ rest = c :: r ∧ isDigit c = true := by
  cases ds with
  | nil => exact absurd rfl numeral.some
  | cons c ds => exact ⟨c, ds ++ rest, rfl, numeral.digits c List.mem_cons_self⟩

theorem dropBlanks_numeral (blank : Blank blanks) (numeral : Numeral ds n) (rest : List Char) :
    dropBlanks (blanks ++ ds ++ rest) = ds ++ rest := by
  obtain ⟨c, r, chars, digit⟩ := exists_first_digit numeral rest
  rw [List.append_assoc, Text.dropBlanks_append blank, chars]
  apply Text.dropBlanks_eq_self
  intro e first
  obtain rfl := Option.some.inj first
  exact Text.isBlank_of_digit digit

theorem Short.number? (short : Short width a n) (ends : Ends rest) :
    number? width (a ++ rest) = some (n, rest) := by
  cases short with
  | @mk blanks ds _ blank numeral short =>
    have digits : ((ds ++ rest).take width).takeWhile isDigit = ds := by
      rw [List.take_append, List.take_of_length_le short]
      exact takeWhile_numeral numeral (ends.take _)
    rw [Calendar.number?, dropBlanks_numeral blank numeral, digits,
      Text.natural?_eq_some_iff.mpr numeral, List.drop_left]
    rfl

theorem number?_dropBlanks (width : Nat) (cs : List Char) :
    number? width (dropBlanks cs) = number? width cs := by
  rw [number?, number?, Text.dropBlanks_dropBlanks]

theorem short_of_number? (read : number? width cs = some (n, rest)) :
    ∃ a, a ++ rest = cs ∧ Short width a n := by
  obtain ⟨n', value, same⟩ := Option.map_eq_some_iff.mp read
  obtain ⟨rfl, rfl⟩ := Prod.mk.inj same
  obtain ⟨blanks, blank, whole⟩ := Text.exists_dropBlanks cs
  generalize dropBlanks cs = core at *
  refine ⟨blanks ++ (core.take width).takeWhile isDigit, ?_,
    .mk blank (Text.natural?_eq_some_iff.mp value) ?_⟩
  · have front : (core.take width).takeWhile isDigit <+: core :=
      (List.takeWhile_prefix isDigit).trans (List.take_prefix width core)
    rw [List.append_assoc, List.prefix_iff_eq_append.mp front, whole]
  · calc ((core.take width).takeWhile isDigit).length
        ≤ (core.take width).length := (List.takeWhile_prefix isDigit).length_le
      _ ≤ width := List.length_take_le width core

theorem Year.year? (year : Year a n) (ends : Ends rest) : year? (a ++ rest) = some (n, rest) := by
  cases year with
  | short number =>
    have read := number.number? ends
    obtain ⟨blank, numeral, -⟩ := number
    unfold Calendar.year?
    rw [dropBlanks_numeral blank numeral]
    split
    next r signed =>
      -- a plus is no digit
      obtain ⟨c, r', chars, digit⟩ := exists_first_digit numeral rest
      obtain ⟨rfl, -⟩ := List.cons.inj (chars.symm.trans signed)
      exact absurd digit (by decide)
    · rw [← dropBlanks_numeral blank numeral, number?_dropBlanks]
      exact read
  | @signed blanks ds _ blank numeral =>
    have sign : dropBlanks (blanks ++ '+' :: ds ++ rest) = '+' :: (ds ++ rest) := by
      rw [List.append_assoc, Text.dropBlanks_append blank]
      rfl
    have read : Calendar.year? (blanks ++ '+' :: ds ++ rest) =
        (Text.natural? 10 ((ds ++ rest).takeWhile isDigit)).map fun n =>
          (n, (ds ++ rest).drop ((ds ++ rest).takeWhile isDigit).length) := by
      rw [Calendar.year?, sign]
      rfl
    rw [read, takeWhile_numeral numeral ends, Text.natural?_eq_some_iff.mpr numeral, List.drop_left]
    rfl

theorem year_of_year? (read : year? cs = some (n, rest)) : ∃ a, a ++ rest = cs ∧ Year a n := by
  obtain ⟨blanks, blank, whole⟩ := Text.exists_dropBlanks cs
  unfold year? at read
  split at read
  next r signed =>
    obtain ⟨n', value, same⟩ := Option.map_eq_some_iff.mp read
    obtain ⟨rfl, rfl⟩ := Prod.mk.inj same
    refine ⟨blanks ++ '+' :: r.takeWhile isDigit, ?_,
      .signed blank (Text.natural?_eq_some_iff.mp value)⟩
    have front : r.takeWhile isDigit <+: r := List.takeWhile_prefix isDigit
    rw [List.append_assoc, List.cons_append, List.prefix_iff_eq_append.mp front, ← signed, whole]
  · rw [number?_dropBlanks] at read
    obtain ⟨a, whole, short⟩ := short_of_number? read
    exact ⟨a, whole, .short short⟩

theorem Short.full (short : Short width cs n) : Text.Full cs := by
  obtain ⟨blank, numeral, -⟩ := short
  exact numeral.full.append _

theorem Year.full (year : Year cs n) : Text.Full cs := by
  cases year with
  | short number => exact number.full
  | signed blank numeral => exact (numeral.full.cons _).append _

/-- What is read is valid and ends with the text. -/
theorem ended_eq_some_iff {α : Type} {taken : Option (α × List Char)} (valid : α → Bool) {x : α} :
    (taken.bind fun (y, r) => if r.isEmpty && valid y then some y else none) = some x ↔
      taken = some (x, []) ∧ valid x = true := by
  constructor
  · intro read
    obtain ⟨⟨y, r⟩, same, read⟩ := Option.bind_eq_some_iff.mp read
    dsimp only at read
    split at read
    next tested =>
      obtain rfl := Option.some.inj read
      obtain ⟨done, valid⟩ := Bool.and_eq_true_iff.mp tested
      obtain rfl := List.isEmpty_iff.mp done
      exact ⟨same, valid⟩
    · cases read
  · rintro ⟨same, valid⟩
    simp [same, valid]

/-! ### Days -/

theorem dated_of_takeDay? (read : takeDay? cs = some (d, rest)) :
    ∃ a, a ++ rest = cs ∧ Dated a d := by
  obtain ⟨⟨day, r₁⟩, ofDay, read⟩ := Option.bind_eq_some_iff.mp read
  obtain ⟨r₂, first, read⟩ := Option.bind_eq_some_iff.mp read
  obtain ⟨⟨month, r₃⟩, ofMonth, read⟩ := Option.bind_eq_some_iff.mp read
  obtain ⟨r₄, second, read⟩ := Option.bind_eq_some_iff.mp read
  obtain ⟨⟨year, r₅⟩, ofYear, read⟩ := Option.bind_eq_some_iff.mp read
  obtain ⟨rfl, rfl⟩ := Prod.mk.inj (Option.some.inj read)
  obtain ⟨a, rfl, shortDay⟩ := short_of_number? ofDay
  obtain rfl := mark?_eq_some first
  obtain ⟨b, rfl, shortMonth⟩ := short_of_number? ofMonth
  obtain rfl := mark?_eq_some second
  obtain ⟨c, rfl, spelledYear⟩ := year_of_year? ofYear
  exact ⟨a ++ '/' :: (b ++ '/' :: c), by simp, .mk shortDay shortMonth spelledYear⟩

theorem Dated.takeDay? (dated : Dated a d) (ends : Ends rest) :
    takeDay? (a ++ rest) = some (d, rest) := by
  cases dated with
  | @mk day month year _ ofDay ofMonth ofYear =>
    have slash : ∀ r, Ends ('/' :: r) := ends_cons (by decide)
    have whole : day ++ '/' :: (month ++ '/' :: year) ++ rest =
        day ++ '/' :: (month ++ '/' :: (year ++ rest)) := by simp
    rw [whole]
    simp only [Calendar.takeDay?, ofDay.number? (slash _), ofMonth.number? (slash _),
      ofYear.year? ends, Option.bind_eq_bind, Option.bind_some, mark?, if_pos]
    rfl

theorem Dated.full (dated : Dated cs d) : Text.Full cs := by
  obtain ⟨-, -, year⟩ := dated
  exact ((year.full.cons _).append _).cons _ |>.append _

theorem takeDay?_dropBlanks (cs : List Char) : takeDay? (dropBlanks cs) = takeDay? cs := by
  simp only [takeDay?, number?_dropBlanks]

/-- A text is read as a day if it is spelled as one that there is, and nothing else is read. -/
theorem day?_eq_some_iff : day? cs = some d ↔ Dated cs d ∧ d.valid = true := by
  have ended : day? cs = some d ↔ takeDay? cs = some (d, []) ∧ d.valid = true :=
    ended_eq_some_iff Day.valid
  rw [ended]
  constructor
  · rintro ⟨taken, valid⟩
    obtain ⟨a, rfl, dated⟩ := dated_of_takeDay? taken
    rw [List.append_nil]
    exact ⟨dated, valid⟩
  · rintro ⟨dated, valid⟩
    have taken := dated.takeDay? ends_nil
    rw [List.append_nil] at taken
    exact ⟨taken, valid⟩

theorem day?_dropBlanks (cs : List Char) : day? (dropBlanks cs) = day? cs := by
  rw [day?, day?, takeDay?_dropBlanks]

/-! ### Minutes -/

theorem timed_of_takeMinute? (read : takeMinute? cs = some (m, rest)) :
    ∃ a, a ++ rest = cs ∧ Timed a m := by
  obtain ⟨⟨hour, r₁⟩, ofHour, read⟩ := Option.bind_eq_some_iff.mp read
  obtain ⟨r₂, colon, read⟩ := Option.bind_eq_some_iff.mp read
  obtain ⟨⟨minute, r₃⟩, ofMinute, read⟩ := Option.bind_eq_some_iff.mp read
  obtain ⟨rfl, rfl⟩ := Prod.mk.inj (Option.some.inj read)
  obtain ⟨a, rfl, shortHour⟩ := short_of_number? ofHour
  obtain rfl := mark?_eq_some colon
  obtain ⟨b, rfl, shortMinute⟩ := short_of_number? ofMinute
  exact ⟨a ++ ':' :: b, by simp, .mk shortHour shortMinute⟩

theorem Timed.takeMinute? (timed : Timed a m) (ends : Ends rest) :
    takeMinute? (a ++ rest) = some (m, rest) := by
  cases timed with
  | mk ofHour ofMinute =>
    have colon : ∀ r, Ends (':' :: r) := ends_cons (by decide)
    rw [List.append_assoc, List.cons_append]
    simp only [Calendar.takeMinute?, ofHour.number? (colon _), ofMinute.number? ends,
      Option.bind_eq_bind, Option.bind_some, mark?, if_pos]
    rfl

theorem Timed.full (timed : Timed cs m) : Text.Full cs := by
  obtain ⟨-, minute⟩ := timed
  exact (minute.full.cons _).append _

theorem Timed.mem_colon (timed : Timed cs m) : ':' ∈ cs := by
  obtain ⟨-, -⟩ := timed
  simp

theorem takeMinute?_dropBlanks (cs : List Char) : takeMinute? (dropBlanks cs) = takeMinute? cs := by
  simp only [takeMinute?, number?_dropBlanks]

theorem minute?_eq_some_iff : minute? cs = some m ↔ Timed cs m ∧ m.valid = true := by
  have ended : minute? cs = some m ↔ takeMinute? cs = some (m, []) ∧ m.valid = true :=
    ended_eq_some_iff Minute.valid
  rw [ended]
  constructor
  · rintro ⟨taken, valid⟩
    obtain ⟨a, rfl, timed⟩ := timed_of_takeMinute? taken
    rw [List.append_nil]
    exact ⟨timed, valid⟩
  · rintro ⟨timed, valid⟩
    have taken := timed.takeMinute? ends_nil
    rw [List.append_nil] at taken
    exact ⟨taken, valid⟩

theorem minute?_dropBlanks (cs : List Char) : minute? (dropBlanks cs) = minute? cs := by
  rw [minute?, minute?, takeMinute?_dropBlanks]

/-! ### Days with minutes -/

theorem both?_eq_some_iff :
    both? cs = some (d, m) ↔ Both cs d m ∧ d.valid = true ∧ m.valid = true := by
  constructor
  · intro read
    obtain ⟨⟨d', r⟩, taken, read⟩ := Option.bind_eq_some_iff.mp read
    obtain ⟨r', dash, read⟩ := Option.bind_eq_some_iff.mp read
    obtain ⟨⟨m', r''⟩, taken', read⟩ := Option.bind_eq_some_iff.mp read
    dsimp only at read
    split at read
    next tested =>
      obtain ⟨rfl, rfl⟩ := Prod.mk.inj (Option.some.inj read)
      obtain ⟨tested, minute⟩ := Bool.and_eq_true_iff.mp tested
      obtain ⟨done, day⟩ := Bool.and_eq_true_iff.mp tested
      obtain rfl := List.isEmpty_iff.mp done
      obtain ⟨a, rfl, dated⟩ := dated_of_takeDay? taken
      obtain ⟨b, rfl, timed⟩ := timed_of_takeMinute? taken'
      obtain ⟨blanks, blank, whole⟩ := Text.exists_dropBlanks r
      rw [← mark?_eq_some dash, List.append_nil] at whole
      rw [← whole]
      exact ⟨.mk dated blank timed, day, minute⟩
    · cases read
  · rintro ⟨both, day, minute⟩
    cases both with
    | @mk ds blanks ms _ _ dated blank timed =>
      have dash : Ends ('-' :: ms) := ends_cons (by decide) ms
      have first := dated.takeDay? (dash.append_blank blank)
      have middle : dropBlanks (blanks ++ '-' :: ms) = '-' :: ms := by
        rw [Text.dropBlanks_append blank]
        rfl
      have last := timed.takeMinute? ends_nil
      rw [List.append_nil] at last
      simp [both?, first, middle, mark?, last, day, minute]

theorem Both.full (both : Both cs d m) : Text.Full cs := by
  obtain ⟨-, -, timed⟩ := both
  exact ((timed.full.cons _).append _).append _

theorem both?_dropBlanks (cs : List Char) : both? (dropBlanks cs) = both? cs := by
  simp only [both?, takeDay?_dropBlanks]

end Blueprint.Calendar
