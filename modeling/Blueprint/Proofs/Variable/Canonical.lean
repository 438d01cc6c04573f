import Blueprint.Proofs.Calendar.Spelling
import Blueprint.Proofs.Variable.Coerce

/-!
# Values and their canonical texts

`VarType.Denotes` says which texts stand for a value, apart from coercion: blanks around numbers,
zeros before them and signs may differ. Coercion accepts exactly the texts that stand for a value,
and takes all texts of one value to one text and texts of two values to two (`coerce_canonical`).
-/

namespace Blueprint.VarType

/-- The values of the types whose texts are not their own values. -/
inductive Denotation where
  | int (i : Int)
  | day (d : Calendar.Day)
  | minute (m : Calendar.Minute)
  | both (d : Calendar.Day) (m : Calendar.Minute)
  deriving DecidableEq, Repr

/-- The text that the payload shows for a value. -/
def Denotation.text : Denotation → String
  | int i => toString i
  | day d => d.text
  | minute m => m.text
  | both d m => Calendar.bothText d m

/-- A text stands for a value of a type, with no blanks behind it. -/
inductive Spells : VarType → List Char → Denotation → Prop where
  | int {cs : List Char} {i : Int} (integer : Text.Integer cs i)
      (inside : -2 ^ 63 ≤ i ∧ i < 2 ^ 63) : Spells .int cs (.int i)
  | date {cs : List Char} {d : Calendar.Day} (dated : Calendar.Dated cs d)
      (valid : d.valid = true) : Spells .date cs (.day d)
  | time {cs : List Char} {m : Calendar.Minute} (timed : Calendar.Timed cs m)
      (valid : m.valid = true) : Spells .time cs (.minute m)
  | datetime {cs : List Char} {d : Calendar.Day} {m : Calendar.Minute} (both : Calendar.Both cs d m)
      (day : d.valid = true) (minute : m.valid = true) : Spells .datetime cs (.both d m)

/-- A text stands for a value of a type, with blanks around it or not. -/
def Denotes (t : VarType) (text : String) (v : Denotation) : Prop :=
  ∃ before cs after, Text.Blank before ∧ Text.Blank after ∧ before ++ (cs ++ after) = text.toList ∧
    Spells t cs v

/-- The value that is read from a text without blanks around it. -/
def value? (t : VarType) (cs : List Char) : Option Denotation :=
  match t with
  | string | multiline => none
  | int => (Text.int64? cs).map .int
  | date => (Calendar.day? cs).map .day
  | time => (Calendar.minute? cs).map .minute
  | datetime => (Calendar.both? cs).map fun (d, m) => .both d m

variable {t : VarType} {text shown : String} {cs : List Char} {v v' : Denotation}

/-! ### Reading values -/

theorem value?_eq_some_iff : t.value? cs = some v ↔ Spells t cs v := by
  constructor
  · intro read
    cases t with
    | string | multiline => cases read
    | int =>
      obtain ⟨i, found, rfl⟩ := Option.map_eq_some_iff.mp read
      obtain ⟨integer, inside⟩ := Text.int64?_eq_some_iff.mp found
      exact .int integer inside
    | date =>
      obtain ⟨d, found, rfl⟩ := Option.map_eq_some_iff.mp read
      obtain ⟨dated, valid⟩ := Calendar.day?_eq_some_iff.mp found
      exact .date dated valid
    | time =>
      obtain ⟨m, found, rfl⟩ := Option.map_eq_some_iff.mp read
      obtain ⟨timed, valid⟩ := Calendar.minute?_eq_some_iff.mp found
      exact .time timed valid
    | datetime =>
      obtain ⟨⟨d, m⟩, found, rfl⟩ := Option.map_eq_some_iff.mp read
      obtain ⟨both, day, minute⟩ := Calendar.both?_eq_some_iff.mp found
      exact .datetime both day minute
  · intro spells
    cases spells with
    | int integer inside =>
      rw [value?, Text.int64?_eq_some_iff.mpr ⟨integer, inside⟩]
      rfl
    | date dated valid =>
      rw [value?, Calendar.day?_eq_some_iff.mpr ⟨dated, valid⟩]
      rfl
    | time timed valid =>
      rw [value?, Calendar.minute?_eq_some_iff.mpr ⟨timed, valid⟩]
      rfl
    | datetime both day minute =>
      rw [value?, Calendar.both?_eq_some_iff.mpr ⟨both, day, minute⟩]
      rfl

theorem Spells.full (spells : Spells t cs v) : Text.Full cs := by
  cases spells with
  | int integer => exact integer.full
  | date dated => exact dated.full
  | time timed => exact timed.full
  | datetime both => exact both.full

/-- Blanks before a value are dropped, or its reader drops them. -/
theorem Spells.value?_dropBlanks (spells : Spells t cs v) :
    t.value? (Text.dropBlanks cs) = some v := by
  have read : t.value? cs = some v := value?_eq_some_iff.mpr spells
  cases spells with
  | int integer =>
    rw [Text.dropBlanks_eq_self fun c first => integer.isBlank (List.mem_of_mem_head? first)]
    exact read
  | date =>
    rw [value?, Calendar.day?_dropBlanks]
    exact read
  | time =>
    rw [value?, Calendar.minute?_dropBlanks]
    exact read
  | datetime =>
    rw [value?, Calendar.both?_dropBlanks]
    exact read

theorem denotes_iff : t.Denotes text v ↔ t.value? (Text.trimChars text.toList) = some v := by
  constructor
  · rintro ⟨before, cs, after, blank, blank', whole, spells⟩
    rw [← whole, Text.trimChars_surround blank blank' spells.full]
    exact spells.value?_dropBlanks
  · intro read
    obtain ⟨before, after, blank, blank', whole⟩ := Text.exists_trimChars text.toList
    exact ⟨before, _, after, blank, blank', whole, value?_eq_some_iff.mp read⟩

/-- The text of a value is read as that value. -/
theorem Spells.value?_text (spells : Spells t cs v) : t.value? v.text.toList = some v := by
  cases spells with
  | int _ inside =>
    rw [value?, Denotation.text, Text.int64?_toString (Text.inInt64_iff.mpr inside)]
    rfl
  | date _ valid =>
    rw [value?, Denotation.text, Calendar.day?_text valid]
    rfl
  | time _ valid =>
    rw [value?, Denotation.text, Calendar.minute?_text valid]
    rfl
  | datetime _ day minute =>
    rw [value?, Denotation.text, Calendar.both?_text day minute]
    rfl

/-! ### Coercion -/

theorem Denotes.unique (denotes : t.Denotes text v) (denotes' : t.Denotes text v') : v = v' := by
  rw [denotes_iff] at denotes denotes'
  exact Option.some.inj (denotes.symm.trans denotes')

theorem Denotes.text_inj {text' : String} (denotes : t.Denotes text v)
    (denotes' : t.Denotes text' v') (same : v.text = v'.text) : v = v' := by
  obtain ⟨_, cs, _, _, _, _, spells⟩ := denotes
  obtain ⟨_, cs', _, _, _, _, spells'⟩ := denotes'
  have read := spells.value?_text
  rw [same, spells'.value?_text] at read
  exact (Option.some.inj read).symm

/-- A text is accepted if it stands for a value, and shown as the text of that value. -/
theorem coerce_ok_iff (typed : t.isText = false) :
    t.coerce text = .ok shown ↔ ∃ v, t.Denotes text v ∧ v.text = shown := by
  have same : t.coerce? text = (t.value? (Text.trimChars text.toList)).map Denotation.text := by
    cases t with
    | string | multiline => cases typed
    | int | date | time | datetime =>
      rw [value?, Option.map_map]
      rfl
  rw [coerce_eq_ok_iff, same, Option.map_eq_some_iff]
  exact exists_congr fun v => and_congr denotes_iff.symm Iff.rfl

theorem Denotes.not_int (denotes : time.Denotes text v) : ¬int.Denotes text v' := by
  rintro ⟨before, cs, after, blank, blank', whole, spells⟩
  obtain ⟨_, ms, _, _, _, whole', spells'⟩ := denotes
  have colon : ':' ∈ text.toList := by
    rw [← whole']
    cases spells' with
    | time timed => simp [timed.mem_colon]
  rw [← whole, List.mem_append, List.mem_append] at colon
  rcases colon with mem | mem | mem
  · exact absurd (blank _ mem) (by decide)
  · cases spells with
    | int integer =>
      rcases integer.mem mem with digit | sign | sign
      · exact absurd digit (by decide)
      · exact absurd sign (by decide)
      · exact absurd sign (by decide)
  · exact absurd (blank' _ mem) (by decide)

/-- **Coercion is canonical.** What coercion returns it accepts, and returns again. A text of a type
other than the texts is accepted exactly if it stands for a value, and then for one only; texts of
one value are coerced to one text, and texts of different values to different texts. -/
theorem coerce_canonical :
    (∀ (t : VarType) (text shown : String),
      t.coerce text = .ok shown → t.coerce shown = .ok shown) ∧
    (∀ t : VarType, t.isText = false → ∀ text : String,
      (∃ shown, t.coerce text = .ok shown) ↔ ∃! v, t.Denotes text v) ∧
    ∀ t : VarType, t.isText = false → ∀ (text text' shown shown' : String) (v v' : Denotation),
      t.coerce text = .ok shown → t.coerce text' = .ok shown' →
      t.Denotes text v → t.Denotes text' v' → (shown = shown' ↔ v = v') := by
  refine ⟨?_, ?_, ?_⟩
  · intro t text shown accepted
    rw [coerce_eq_ok_iff] at accepted ⊢
    exact coerce?_shown accepted
  · intro t typed text
    constructor
    · rintro ⟨shown, accepted⟩
      obtain ⟨v, denotes, -⟩ := (coerce_ok_iff typed).mp accepted
      refine ⟨v, denotes, ?_⟩
      intro v' denotes'
      exact denotes'.unique denotes
    · rintro ⟨v, denotes, -⟩
      exact ⟨v.text, (coerce_ok_iff typed).mpr ⟨v, denotes, rfl⟩⟩
  · intro t typed text text' shown shown' v v' accepted accepted' denotes denotes'
    obtain ⟨w, first, rfl⟩ := (coerce_ok_iff typed).mp accepted
    obtain ⟨w', second, rfl⟩ := (coerce_ok_iff typed).mp accepted'
    obtain rfl := first.unique denotes
    obtain rfl := second.unique denotes'
    constructor
    · exact first.text_inj second
    · rintro rfl
      rfl

theorem coerce_canonical_leap :
    date.coerce " 29/2/+02024" = .ok "29/02/2024" ∧ date.coerce "1/ 03/2024\n" = .ok "01/03/2024" ∧
    date.Denotes " 29/2/+02024" (.day ⟨29, 2, 2024⟩) ∧
    date.Denotes "1/ 03/2024\n" (.day ⟨1, 3, 2024⟩) ∧
    date.coerce "29/02/2024" = .ok "29/02/2024" ∧ (∃! v, date.Denotes "1/ 03/2024\n" v) ∧
    (∀ text v, date.coerce text = .ok "29/02/2024" → date.Denotes text v → v = .day ⟨29, 2, 2024⟩) ∧
    ¬∃ v, date.Denotes "29/02/2023" v := by
  obtain ⟨again, accepts, apart⟩ := coerce_canonical
  have leap : date.coerce " 29/2/+02024" = .ok "29/02/2024" := by
    rw [coerce_eq_ok_iff]
    decide +kernel
  have next : date.coerce "1/ 03/2024\n" = .ok "01/03/2024" := by
    rw [coerce_eq_ok_iff]
    decide +kernel
  have day : date.Denotes " 29/2/+02024" (.day ⟨29, 2, 2024⟩) := denotes_iff.mpr (by decide +kernel)
  have day' : date.Denotes "1/ 03/2024\n" (.day ⟨1, 3, 2024⟩) := denotes_iff.mpr (by decide +kernel)
  refine ⟨leap, next, day, day', again _ _ _ leap, (accepts _ rfl _).mp ⟨_, next⟩,
    fun text v shown denotes => ?_, ?_⟩
  · exact (apart _ rfl _ _ _ _ _ _ shown leap denotes day).mp rfl
  · rintro ⟨v, denotes⟩
    have alone : ∃! v, date.Denotes "29/02/2023" v :=
      ⟨v, denotes, fun v' denotes' => denotes'.unique denotes⟩
    obtain ⟨shown, accepted⟩ := (accepts _ rfl _).mpr alone
    rw [coerce_eq_ok_iff] at accepted
    have none : date.coerce? "29/02/2023" = none := by decide +kernel
    rw [none] at accepted
    cases accepted

end Blueprint.VarType
