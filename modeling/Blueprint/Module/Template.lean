import Blueprint.Text.Blank
import Blueprint.Text.Bytes
import Blueprint.Yaml.Shown

/-!
# Parameters in text

A placeholder is `params.` and a key in double braces. `Params.fill` goes over a text once from left
to right and puts the values in where the placeholders stand, so that places further on move. What it
puts in is not looked at again, and braces around anything else stay.
-/

namespace Blueprint

abbrev Params := OrderedMap Yaml.Value

namespace Params

def opener : List Char := ['\x7b', '\x7b']

def closer : List Char := ['\x7d', '\x7d']

def key? (inner : List Char) : Option String :=
  match Text.cut? "params.".toList (Text.trimChars inner) with
  | some ([], key) => some (String.ofList key)
  | _ => none

/-- A text under filling. What stands before `start` is done. -/
@[ext]
structure Filling where
  text : List Char
  start : Nat
  /-- The place lies between two characters. -/
  between : ∃ done rest, text = done ++ rest ∧ start = Text.byteLength done

namespace Filling

/-- A text that is done up to the rest. -/
def ofParts (done rest : List Char) : Filling :=
  ⟨done ++ rest, Text.byteLength done, done, rest, rfl, rfl⟩

def rest (f : Filling) : List Char := Text.dropBytes f.start f.text

/-- The places where the next braces begin and end. -/
def braces? (f : Filling) : Option (Nat × Nat) := do
  let opened := f.start + (← Text.find? opener f.rest)
  let closed := opened + (← Text.find? closer (Text.dropBytes opened f.text)) + 2
  return (opened, closed)

theorem exists_parts (f : Filling) : ∃ done rest, f = ofParts done rest := by
  obtain ⟨text, start, done, rest, rfl, rfl⟩ := f
  exact ⟨done, rest, rfl⟩

theorem rest_eq {f : Filling} {done after : List Char} (text : f.text = done ++ after)
    (start : f.start = Text.byteLength done) : f.rest = after := by
  rw [rest, text, start, Text.dropBytes_append]

@[simp] theorem rest_ofParts (done after : List Char) : (ofParts done after).rest = after :=
  rest_eq rfl rfl

/-- Opening braces hold no closing ones. -/
theorem cut?_closer_opener (cs : List Char) : Text.cut? closer (opener ++ cs) =
    (Text.cut? closer cs).map fun (before, after) => (opener ++ before, after) := by
  simp [opener, closer, Text.cut?, Function.comp_def]

theorem braces?_ofParts (done rest : List Char) : (ofParts done rest).braces? = do
    let (before, inside) ← Text.cut? opener rest
    let (inner, _) ← Text.cut? closer inside
    return (Text.byteLength (done ++ before),
      Text.byteLength (done ++ before ++ opener ++ inner ++ closer)) := by
  rw [braces?, rest_ofParts, Text.find?]
  cases opened : Text.cut? opener rest with
  | none => rfl
  | some parts =>
    obtain ⟨before, inside⟩ := parts
    obtain rfl := Text.cut?_eq_some opened
    simp only [Option.map_some, Option.bind_eq_bind, Option.bind_some, Option.pure_def, ofParts]
    rw [← Text.byteLength_append, List.append_assoc before, ← List.append_assoc done,
      Text.dropBytes_append, Text.find?, cut?_closer_opener]
    cases Text.cut? closer inside with
    | none => rfl
    | some parts => simp [Nat.add_assoc, show Text.byteLength closer = 2 from rfl]

variable {f g : Filling} {opened closed : Nat}

/-- The text around the next braces. -/
theorem parts_of_braces? (h : f.braces? = some (opened, closed)) : ∃ done before inner after,
    f = ofParts done (before ++ (opener ++ inner ++ closer) ++ after) ∧
      opened = Text.byteLength (done ++ before) ∧
      closed = opened + Text.byteLength (opener ++ inner ++ closer) := by
  obtain ⟨done, rest, rfl⟩ := f.exists_parts
  rw [braces?_ofParts] at h
  obtain ⟨⟨before, inside⟩, first, h⟩ := Option.bind_eq_some_iff.mp h
  obtain ⟨⟨inner, after⟩, last, h⟩ := Option.bind_eq_some_iff.mp h
  obtain ⟨rfl, rfl⟩ := Prod.mk.inj (Option.some.inj h)
  obtain rfl := Text.cut?_eq_some first
  obtain rfl := Text.cut?_eq_some last
  exact ⟨done, before, inner, after, by simp, rfl, by simp [Nat.add_assoc]⟩

theorem closed_parts (h : f.braces? = some (opened, closed)) : ∃ done after,
    f.text = done ++ after ∧ closed = Text.byteLength done ∧ after.length < f.rest.length := by
  obtain ⟨done, before, inner, after, rfl, rfl, rfl⟩ := parts_of_braces? h
  refine ⟨done ++ before ++ (opener ++ inner ++ closer), after, by simp [ofParts],
    (Text.byteLength_append _ _).symm, ?_⟩
  simp [opener]
  omega

theorem spliced_parts (h : f.braces? = some (opened, closed)) (value : List Char) : ∃ done after,
    Text.splice opened closed value f.text = done ++ after ∧
      opened + Text.byteLength value = Text.byteLength done ∧ after.length < f.rest.length := by
  obtain ⟨done, before, inner, after, rfl, rfl, rfl⟩ := parts_of_braces? h
  refine ⟨done ++ before ++ value, after, ?_, (Text.byteLength_append _ _).symm, ?_⟩
  · have text : (ofParts done (before ++ (opener ++ inner ++ closer) ++ after)).text =
        done ++ before ++ (opener ++ inner ++ closer ++ after) := by simp [ofParts]
    rw [text, Text.splice_append]
  · simp [opener]
    omega

theorem lt_of_parts {done after : List Char} (text : g.text = done ++ after)
    (start : g.start = Text.byteLength done) (less : after.length < f.rest.length) :
    g.rest.length < f.rest.length := by
  rwa [rest_eq text start]

/-- Fills the next braces; there is no next state when none are left. The error is a key without a
value. -/
def next? (ps : Params) (f : Filling) : Except String (Option Filling) :=
  match braced : f.braces? with
  | none => .ok none
  | some (opened, closed) =>
    match key? (Text.slice (opened + 2) (closed - 2) f.text) with
    | none =>
      .ok (some ⟨f.text, closed, (closed_parts braced).imp fun _ => .imp fun _ h => ⟨h.1, h.2.1⟩⟩)
    | some key =>
      match ps.get? key with
      | none => .error key
      | some v =>
        let value := v.text.toList
        .ok (some ⟨Text.splice opened closed value f.text, opened + Text.byteLength value,
          (spliced_parts braced value).imp fun _ => .imp fun _ h => ⟨h.1, h.2.1⟩⟩)

/-- Every round leaves less of the text, even where the text grows. -/
theorem rest_lt {ps : Params} (h : f.next? ps = .ok (some g)) : g.rest.length < f.rest.length := by
  unfold next? at h
  split at h
  · cases h
  · rename_i opened closed braced
    split at h
    · obtain rfl := Option.some.inj (Except.ok.inj h)
      obtain ⟨done, after, text, place, less⟩ := closed_parts braced
      exact lt_of_parts text place less
    · split at h
      · cases h
      · rename_i v _
        obtain rfl := Option.some.inj (Except.ok.inj h)
        obtain ⟨done, after, text, place, less⟩ := spliced_parts braced v.text.toList
        exact lt_of_parts text place less

end Filling

def fillFrom (ps : Params) (f : Filling) : Except String (List Char) :=
  match _ : f.next? ps with
  | .error key => .error key
  | .ok none => .ok f.text
  | .ok (some g) => fillFrom ps g
termination_by f.rest.length
decreasing_by exact Filling.rest_lt ‹_›

def fill (ps : Params) (s : String) : Except String String :=
  (ps.fillFrom (.ofParts [] s.toList)).map String.ofList

/-! ### Values -/

mutual

/-- Fills every text of a value but its keys. -/
def fillValue (ps : Params) : Yaml.Value → Except String Yaml.Value
  | .str s => (ps.fill s).map .str
  | .sequence items => (fillItems ps items).map .sequence
  | .mapping entries => (fillEntries ps entries).map .mapping
  | .tagged tag v => (fillValue ps v).map (.tagged tag)
  | v => .ok v

def fillItems (ps : Params) : List Yaml.Value → Except String (List Yaml.Value)
  | [] => .ok []
  | v :: vs => do return (← fillValue ps v) :: (← fillItems ps vs)

def fillEntries (ps : Params) :
    List (Yaml.Value × Yaml.Value) → Except String (List (Yaml.Value × Yaml.Value))
  | [] => .ok []
  | (k, v) :: es => do return (k, ← fillValue ps v) :: (← fillEntries ps es)

end

end Params

end Blueprint
