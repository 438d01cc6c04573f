import Blueprint.Proofs.Text.Digits

/-!
# Spelled numbers

`Numeral` and `Integer` say which texts stand for a number, apart from the readers: digits in the
decimal system, with one sign or none. The readers take these texts and no others
(`natural?_eq_some_iff`, `integer?_eq_some_iff`). Blanks around a text are those that trimming takes
away (`exists_trimChars`, `trimChars_surround`).
-/

namespace Blueprint.Text

variable {cs ds before after : List Char} {c : Char} {n acc : Nat} {i : Int}

/-! ### Blanks around a text -/

def Blank (cs : List Char) : Prop := ∀ c ∈ cs, isBlank c = true

instance (cs : List Char) : Decidable (Blank cs) :=
  List.decidableBAll (fun c => isBlank c = true) cs

theorem dropBlanks_append (blank : Blank before) (cs : List Char) :
    dropBlanks (before ++ cs) = dropBlanks cs :=
  List.dropWhile_append_of_pos blank

theorem exists_dropBlanks (cs : List Char) :
    ∃ before, Blank before ∧ before ++ dropBlanks cs = cs :=
  ⟨cs.takeWhile isBlank, fun _ mem => List.mem_takeWhile_imp mem, List.takeWhile_append_dropWhile⟩

theorem dropBlanks_dropBlanks (cs : List Char) : dropBlanks (dropBlanks cs) = dropBlanks cs := by
  apply dropBlanks_eq_self
  intro c first
  have full := List.head?_dropWhile_not isBlank cs
  rw [← dropBlanks, Option.mem_def.mp first] at full
  simpa using full

/-- Dropping blanks ends before a full character, whatever stands behind it. -/
theorem dropBlanks_full (full : isBlank c = false) (cs : List Char) :
    ∃ rest, ∀ after, dropBlanks (cs ++ c :: after) = rest ++ c :: after := by
  induction cs with
  | nil => exact ⟨[], fun after => by simp [dropBlanks, full]⟩
  | cons d cs ih =>
    by_cases blank : isBlank d = true
    · obtain ⟨rest, same⟩ := ih
      refine ⟨rest, fun after => ?_⟩
      rw [List.cons_append, dropBlanks, List.dropWhile_cons_of_pos blank]
      exact same after
    · refine ⟨d :: cs, fun after => ?_⟩
      rw [List.cons_append, dropBlanks, List.dropWhile_cons_of_neg blank]

/-- A text with something other than a blank at its end. -/
def Full (cs : List Char) : Prop := ∃ front c, cs = front ++ [c] ∧ isBlank c = false

theorem Full.append (full : Full cs) (before : List Char) : Full (before ++ cs) := by
  obtain ⟨front, c, rfl, other⟩ := full
  exact ⟨before ++ front, c, by simp, other⟩

theorem Full.cons (full : Full cs) (c : Char) : Full (c :: cs) := full.append [c]

theorem trimChars_surround (blank : Blank before) (blank' : Blank after) (full : Full cs) :
    trimChars (before ++ (cs ++ after)) = dropBlanks cs := by
  obtain ⟨front, c, rfl, other⟩ := full
  obtain ⟨rest, left⟩ := dropBlanks_full other front
  have whole : front ++ [c] ++ after = front ++ c :: after := by simp
  have reversed : Blank after.reverse := fun d mem => blank' d (List.mem_reverse.mp mem)
  have right : dropBlanks (rest ++ c :: after).reverse = (rest ++ [c]).reverse := by
    have shape : (rest ++ c :: after).reverse = after.reverse ++ c :: rest.reverse := by simp
    rw [shape, dropBlanks_append reversed]
    simp [dropBlanks, other]
  rw [trimChars, dropBlanks_append blank, whole, left, dropBlanksEnd, right, List.reverse_reverse,
    left]

theorem exists_trimChars (cs : List Char) : ∃ before after, Blank before ∧ Blank after ∧
    before ++ (trimChars cs ++ after) = cs := by
  obtain ⟨before, blank, whole⟩ := exists_dropBlanks cs
  obtain ⟨after, blank', rest⟩ := exists_dropBlanks (dropBlanks cs).reverse
  refine ⟨before, after.reverse, blank, fun c mem => blank' c (List.mem_reverse.mp mem), ?_⟩
  rw [trimChars, dropBlanksEnd, ← List.reverse_append, rest, List.reverse_reverse, whole]

/-! ### Numerals -/

/-- The number that a run of digits stands for. -/
def decimal (ds : List Char) : Nat := ds.foldl (fun n c => n * 10 + (c.toNat - '0'.toNat)) 0

structure Numeral (ds : List Char) (n : Nat) : Prop where
  some : ds ≠ []
  digits : ∀ c ∈ ds, isDigit c = true
  value : decimal ds = n

/-- A numeral with one sign or none. -/
inductive Integer : List Char → Int → Prop where
  | unsigned {ds : List Char} {n : Nat} (numeral : Numeral ds n) : Integer ds n
  | plus {ds : List Char} {n : Nat} (numeral : Numeral ds n) : Integer ('+' :: ds) n
  | minus {ds : List Char} {n : Nat} (numeral : Numeral ds n) : Integer ('-' :: ds) (-n)

theorem digitValue?_of_digit (digit : isDigit c = true) :
    digitValue? c = some (c.toNat - '0'.toNat) ∧ c.toNat - '0'.toNat < 10 := by
  refine ⟨by rw [digitValue?, if_pos digit], ?_⟩
  simp only [isDigit, Bool.and_eq_true, decide_eq_true_eq, Char.le_def, UInt32.le_iff_toNat_le]
    at digit
  have high : c.toNat ≤ 57 := digit.2
  have zero : '0'.toNat = 48 := rfl
  omega

/-- Letters count from ten. -/
theorem isDigit_of_digitValue? {d : Nat} (value : digitValue? c = some d) (small : d < 10) :
    isDigit c = true := by
  by_contra other
  rw [digitValue?, if_neg other] at value
  split at value
  · obtain rfl := Option.some.inj value
    omega
  · split at value
    · obtain rfl := Option.some.inj value
      omega
    · cases value

theorem valueFrom?_digits (digits : ∀ c ∈ ds, isDigit c = true) (acc : Nat) :
    valueFrom? 10 acc ds =
      some (ds.foldl (fun n c => n * 10 + (c.toNat - '0'.toNat)) acc) := by
  induction ds generalizing acc with
  | nil => rfl
  | cons c ds ih =>
    obtain ⟨digit, digits⟩ := List.forall_mem_cons.mp digits
    obtain ⟨value, small⟩ := digitValue?_of_digit digit
    rw [valueFrom?, value]
    dsimp only
    rw [if_pos small, ih digits, List.foldl_cons]

theorem isDigit_of_valueFrom? (value : valueFrom? 10 acc ds = some n) :
    ∀ c ∈ ds, isDigit c = true := by
  induction ds generalizing acc with
  | nil => simp
  | cons c ds ih =>
    rw [valueFrom?] at value
    split at value
    · rename_i d digit
      split at value
      · rename_i small
        exact List.forall_mem_cons.mpr ⟨isDigit_of_digitValue? digit small, ih value⟩
      · cases value
    · cases value

/-- A run of digits is read as the number that it stands for, and nothing else is read. -/
theorem natural?_eq_some_iff : natural? 10 ds = some n ↔ Numeral ds n := by
  constructor
  · intro read
    unfold natural? at read
    split at read
    · cases read
    · rename_i full
      have digits := isDigit_of_valueFrom? read
      rw [valueFrom?_digits digits] at read
      exact ⟨by simpa using full, digits, Option.some.inj read⟩
  · intro numeral
    apply natural?_of_value numeral.some
    rw [valueFrom?_digits numeral.digits]
    exact congrArg Option.some numeral.value

theorem Numeral.full (numeral : Numeral ds n) : Full ds := by
  have last : ds.getLast numeral.some ∈ ds := List.getLast_mem numeral.some
  exact ⟨ds.dropLast, _, (List.dropLast_concat_getLast numeral.some).symm,
    isBlank_of_digit (numeral.digits _ last)⟩

/-! ### Integers -/

theorem integer?_eq_some_iff : integer? 10 cs = some i ↔ Integer cs i := by
  constructor
  · intro read
    unfold integer? at read
    split at read <;> obtain ⟨n, value, rfl⟩ := Option.map_eq_some_iff.mp read
    · exact .plus (natural?_eq_some_iff.mp value)
    · exact .minus (natural?_eq_some_iff.mp value)
    · exact .unsigned (natural?_eq_some_iff.mp value)
  · intro integer
    cases integer with
    | unsigned numeral =>
      rw [integer?_of_digits numeral.digits, natural?_eq_some_iff.mpr numeral]
      rfl
    | plus numeral | minus numeral =>
      rw [integer?, natural?_eq_some_iff.mpr numeral]
      rfl

theorem inInt64_iff : inInt64 i = true ↔ -2 ^ 63 ≤ i ∧ i < 2 ^ 63 := by
  simp [inInt64]

theorem int64?_eq_some_iff : int64? cs = some i ↔ Integer cs i ∧ -2 ^ 63 ≤ i ∧ i < 2 ^ 63 := by
  rw [int64?, Option.filter_eq_some_iff, integer?_eq_some_iff, inInt64_iff]

theorem Integer.full (integer : Integer cs i) : Full cs := by
  cases integer with
  | unsigned numeral => exact numeral.full
  | plus numeral | minus numeral => exact numeral.full.cons _

theorem Integer.mem (integer : Integer cs i) {c : Char} (mem : c ∈ cs) :
    isDigit c = true ∨ c = '+' ∨ c = '-' := by
  cases integer with
  | unsigned numeral => exact .inl (numeral.digits c mem)
  | plus numeral =>
    rcases List.mem_cons.mp mem with sign | mem
    · exact .inr (.inl sign)
    · exact .inl (numeral.digits c mem)
  | minus numeral =>
    rcases List.mem_cons.mp mem with sign | mem
    · exact .inr (.inr sign)
    · exact .inl (numeral.digits c mem)

theorem Integer.isBlank (integer : Integer cs i) {c : Char} (mem : c ∈ cs) :
    isBlank c = false := by
  rcases integer.mem mem with digit | rfl | rfl
  · exact isBlank_of_digit digit
  · decide
  · decide

end Blueprint.Text
