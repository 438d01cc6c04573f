import Blueprint.Text.Blank
import Blueprint.Text.Digits
import Mathlib.Data.List.TakeWhile
import Mathlib.Data.Nat.Digits.Defs

/-!
# Numbers and their texts

A number is read back from its decimal digits, whatever zeros stand before them, and an integer from
its sign and digits. Texts that neither begin nor end with a blank are trimmed already, and trimming
takes nothing but blanks.
-/

namespace Blueprint.Text

/-! ### Blanks -/

theorem dropBlanks_eq_self {cs : List Char} (first : ∀ c ∈ cs.head?, isBlank c = false) :
    dropBlanks cs = cs := by
  cases cs with
  | nil => rfl
  | cons c cs =>
    have plain : ¬isBlank c = true := by simp [first c rfl]
    exact List.dropWhile_cons_of_neg plain

theorem trimChars_eq_self {cs : List Char} (first : ∀ c ∈ cs.head?, isBlank c = false)
    (last : ∀ c ∈ cs.getLast?, isBlank c = false) : trimChars cs = cs := by
  have reversed : dropBlanks cs.reverse = cs.reverse := by
    apply dropBlanks_eq_self
    intro c mem
    rw [List.head?_reverse] at mem
    exact last c mem
  rw [trimChars, dropBlanks_eq_self first, dropBlanksEnd, reversed, List.reverse_reverse]

theorem trimChars_of_plain {cs : List Char} (plain : ∀ c ∈ cs, isBlank c = false) :
    trimChars cs = cs :=
  trimChars_eq_self (fun c mem => plain c (List.mem_of_mem_head? mem))
    fun c mem => plain c (List.mem_of_mem_getLast? mem)

theorem trimChars_last (cs : List Char) : ∀ c ∈ (trimChars cs).getLast?, isBlank c = false := by
  intro c last
  rw [trimChars, dropBlanksEnd, List.getLast?_reverse, dropBlanks] at last
  have full := List.head?_dropWhile_not isBlank (dropBlanks cs).reverse
  rw [Option.mem_def.mp last] at full
  simpa using full

theorem mem_dropBlanks {c : Char} {cs : List Char} (mem : c ∈ cs) (full : isBlank c = false) :
    c ∈ dropBlanks cs := by
  rw [← List.takeWhile_append_dropWhile (p := isBlank) (l := cs), List.mem_append] at mem
  rcases mem with blank | mem
  · rw [List.mem_takeWhile_imp blank] at full
    cases full
  · exact mem

/-- Trimming takes blanks only. -/
theorem mem_trimChars {c : Char} {cs : List Char} (mem : c ∈ cs) (full : isBlank c = false) :
    c ∈ trimChars cs :=
  List.mem_reverse.mpr (mem_dropBlanks (List.mem_reverse.mpr (mem_dropBlanks mem full)) full)

theorem isBlank_of_digit {c : Char} (digit : isDigit c = true) : isBlank c = false := by
  simp only [isDigit, Bool.and_eq_true, decide_eq_true_eq, Char.le_def, UInt32.le_iff_toNat_le]
    at digit
  have low : 48 ≤ c.toNat := digit.1
  have high : c.toNat ≤ 57 := digit.2
  simp [isBlank]
  omega

/-! ### Digits -/

theorem digitValue?_digitChar {d : Nat} (small : d < 10) : digitValue? d.digitChar = some d := by
  have all : ∀ d < 10, digitValue? (Nat.digitChar d) = some d := by decide
  exact all d small

theorem isDigit_of_mem_toDigits {n : Nat} {c : Char} (mem : c ∈ Nat.toDigits 10 n) :
    isDigit c = true :=
  Nat.isDigit_of_mem_toDigits (by decide) (by decide) mem

theorem valueFrom?_append (radix acc : Nat) (cs ds : List Char) :
    valueFrom? radix acc (cs ++ ds) =
      (valueFrom? radix acc cs).bind fun n => valueFrom? radix n ds := by
  induction cs generalizing acc with
  | nil => rfl
  | cons c cs ih =>
    rw [List.cons_append, valueFrom?, valueFrom?]
    cases digitValue? c with
    | none => rfl
    | some d =>
      dsimp only
      split
      · exact ih _
      · rfl

theorem valueFrom?_toDigits (n : Nat) : valueFrom? 10 0 (Nat.toDigits 10 n) = some n := by
  induction n using Nat.strong_induction_on with
  | _ n ih =>
    by_cases small : n < 10
    · rw [Nat.toDigits_of_lt_base small]
      simp [valueFrom?, digitValue?_digitChar small, small]
    · have last : n % 10 < 10 := Nat.mod_lt _ (by decide)
      rw [Nat.toDigits_of_base_le (by decide) (by omega), valueFrom?_append, ih (n / 10) (by omega)]
      simp [valueFrom?, digitValue?_digitChar last, last]
      omega

theorem valueFrom?_zeros (k : Nat) : valueFrom? 10 0 (List.replicate k '0') = some 0 := by
  induction k with
  | zero => rfl
  | succ k ih =>
    rw [List.replicate_succ, valueFrom?, show digitValue? '0' = some 0 by decide]
    exact ih

theorem natural?_of_value {radix n : Nat} {cs : List Char} (some : cs ≠ [])
    (value : valueFrom? radix 0 cs = .some n) : natural? radix cs = .some n := by
  rw [natural?, if_neg (by simpa using some), value]

/-! ### Numbers of a fixed width -/

variable {width n : Nat}

theorem toList_padded (width n : Nat) : (padded width n).toList =
    List.replicate (width - (Nat.toDigits 10 n).length) '0' ++ Nat.toDigits 10 n := by
  simp [padded]

theorem isDigit_of_mem_padded {c : Char} (mem : c ∈ (padded width n).toList) :
    isDigit c = true := by
  rw [toList_padded] at mem
  rcases List.mem_append.mp mem with zero | digit
  · rw [List.eq_of_mem_replicate zero]
    decide
  · exact isDigit_of_mem_toDigits digit

theorem padded_ne_nil (width n : Nat) : (padded width n).toList ≠ [] := by
  rw [toList_padded]
  intro none
  exact Nat.toDigits_ne_nil (List.append_eq_nil_iff.mp none).2

theorem natural?_padded (width n : Nat) : natural? 10 (padded width n).toList = some n := by
  apply natural?_of_value (padded_ne_nil width n)
  rw [toList_padded, valueFrom?_append, valueFrom?_zeros]
  exact valueFrom?_toDigits n

theorem length_padded (positive : 0 < width) (small : n < 10 ^ width) :
    (padded width n).toList.length = width := by
  have digits : (Nat.toDigits 10 n).length ≤ width :=
    (Nat.length_toDigits_le_iff (by decide) positive).mpr small
  rw [toList_padded, List.length_append, List.length_replicate]
  omega

/-! ### Integers -/

theorem integer?_of_digits {cs : List Char} (digits : ∀ c ∈ cs, isDigit c = true) :
    integer? 10 cs = (natural? 10 cs).map Int.ofNat := by
  unfold integer?
  split
  · exact absurd (digits '+' List.mem_cons_self) (by decide)
  · exact absurd (digits '-' List.mem_cons_self) (by decide)
  · rfl

theorem integer?_toString (i : Int) : integer? 10 (toString i).toList = some i := by
  have value (n : Nat) : natural? 10 (Nat.toDigits 10 n) = some n :=
    natural?_of_value Nat.toDigits_ne_nil (valueFrom?_toDigits n)
  cases i with
  | ofNat n =>
    have chars : (toString (Int.ofNat n)).toList = Nat.toDigits 10 n := Nat.toList_repr
    rw [chars, integer?_of_digits fun c => isDigit_of_mem_toDigits, value]
    rfl
  | negSucc n =>
    have chars : (toString (Int.negSucc n)).toList = '-' :: Nat.toDigits 10 (n + 1) := by
      change ("-" ++ (n + 1).repr).toList = _
      rw [String.toList_append, Nat.toList_repr]
      rfl
    rw [chars, integer?, value]
    rfl

theorem int64?_toString {i : Int} (inside : inInt64 i = true) :
    int64? (toString i).toList = some i := by
  rw [int64?, integer?_toString, Option.filter_some, if_pos inside]

theorem mem_toString {i : Int} {c : Char} (mem : c ∈ (toString i).toList) :
    isDigit c = true ∨ c = '-' := by
  cases i with
  | ofNat n =>
    have chars : (toString (Int.ofNat n)).toList = Nat.toDigits 10 n := Nat.toList_repr
    exact .inl (isDigit_of_mem_toDigits (chars ▸ mem))
  | negSucc n =>
    change c ∈ ("-" ++ (n + 1).repr).toList at mem
    rw [String.toList_append, Nat.toList_repr] at mem
    rcases List.mem_cons.mp mem with sign | digit
    · exact .inr sign
    · exact .inl (isDigit_of_mem_toDigits digit)

end Blueprint.Text
