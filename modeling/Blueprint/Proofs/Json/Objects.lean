import Blueprint.Json.Value

/-!
# Objects of a value

`objects` lists every object inside a value. The maps under `response_paths` are left out: their
keys are free, and they hold nothing but texts.
-/

namespace Blueprint.Json

def text? (k : String) (j : Json) : Option String := (j.get? k).bind asString?

/-- The items of a list in a field; anything but a list has none. -/
def items (k : String) (j : Json) : List Json := ((j.get? k).bind asArray?).getD []

def within? (ks : List String) (j : Json) : Option Json := ks.foldlM (fun j k => j.get? k) j

@[simp] theorem items_nil (k : String) : items k (.obj []) = [] := rfl

@[simp] theorem items_cons (k k' : String) (j : Json) (fields : List (String × Json)) :
    items k (.obj ((k', j) :: fields)) =
      if k' = k then j.asArray?.getD [] else items k (.obj fields) := by
  rw [items, get?, Entries.get?]
  split <;> rfl

@[simp] theorem text?_nil (k : String) : text? k (.obj []) = none := rfl

@[simp] theorem text?_cons (k k' : String) (j : Json) (fields : List (String × Json)) :
    text? k (.obj ((k', j) :: fields)) = if k' = k then j.asString? else text? k (.obj fields) := by
  rw [text?, get?, Entries.get?]
  split <;> rfl

mutual

def objects : Json → List Json
  | .obj fields => .obj fields :: objectsOfFields fields
  | .arr js => objectsOfItems js
  | .null => []
  | .bool _ => []
  | .int _ => []
  | .float _ => []
  | .str _ => []

def objectsOfItems : List Json → List Json
  | [] => []
  | j :: js => objects j ++ objectsOfItems js

def objectsOfFields : List (String × Json) → List Json
  | [] => []
  | (k, j) :: fields => (if k = "response_paths" then [] else objects j) ++ objectsOfFields fields

end

theorem objectsOfFields_eq (fields : List (String × Json)) : objectsOfFields fields =
    fields.flatMap fun f => if f.1 = "response_paths" then [] else objects f.2 := by
  induction fields with
  | nil => rfl
  | cons f fields ih => rw [objectsOfFields, List.flatMap_cons, ih]

theorem objectsOfItems_eq (js : List Json) : objectsOfItems js = js.flatMap objects := by
  induction js with
  | nil => rfl
  | cons j js ih => rw [objectsOfItems, List.flatMap_cons, ih]

@[simp] theorem objects_str (s : String) : objects (.str s) = [] := rfl

@[simp] theorem objects_int (i : Int) : objects (.int i) = [] := rfl

@[simp] theorem objects_ofNat (n : Nat) : objects (.ofNat n) = [] := rfl

@[simp] theorem objects_bool (b : Bool) : objects (.bool b) = [] := rfl

@[simp] theorem objects_arr (js : List Json) : objects (.arr js) = js.flatMap objects :=
  objectsOfItems_eq js

@[simp] theorem objects_obj (fields : List (String × Json)) : objects (.obj fields) =
    .obj fields :: fields.flatMap fun f => if f.1 = "response_paths" then [] else objects f.2 := by
  rw [objects, objectsOfFields_eq]

theorem forall_objects_obj {P : Json → Prop} {fields : List (String × Json)} (self : P (.obj fields))
    (parts : ∀ f ∈ fields, f.1 ≠ "response_paths" → ∀ o ∈ f.2.objects, P o) :
    ∀ o ∈ objects (.obj fields), P o := by
  rw [objects_obj]
  refine List.forall_mem_cons.mpr ⟨self, fun o mem => ?_⟩
  obtain ⟨f, inside, mem⟩ := List.mem_flatMap.mp mem
  split at mem
  · cases mem
  · exact parts f inside ‹_› o mem

@[simp] theorem objects_ofStrings (ss : List String) : objects (.ofStrings ss) = [] := by
  simp [ofStrings, List.flatMap_map]

end Blueprint.Json

namespace Blueprint.Entries

theorem get?_append {α : Type} (k : String) (es fs : List (String × α)) :
    get? k (es ++ fs) = (get? k es).or (get? k fs) := by
  induction es with
  | nil => rfl
  | cons e es ih =>
    obtain ⟨k', v⟩ := e
    by_cases same : k' = k <;> simp [get?, same, ih]

end Blueprint.Entries
