import Blueprint.Yaml.Value

/-!
# Comparing values

Whether two values are equal can be decided, and so what a text reads as.
-/

namespace Blueprint.Yaml.Value

mutual

/-- Equality, which the order of entries counts for. -/
def equals : Value → Value → Bool
  | .null, .null => true
  | .bool a, .bool b => a == b
  | .int a, .int b => a == b
  | .float a, .float b => a == b
  | .str a, .str b => a == b
  | .sequence as, .sequence bs => equalItems as bs
  | .mapping as, .mapping bs => equalEntries as bs
  | .tagged s a, .tagged t b => s == t && equals a b
  | _, _ => false

def equalItems : List Value → List Value → Bool
  | [], [] => true
  | a :: as, b :: bs => equals a b && equalItems as bs
  | _, _ => false

def equalEntries : List (Value × Value) → List (Value × Value) → Bool
  | [], [] => true
  | (k, v) :: es, (l, w) :: fs => equals k l && equals v w && equalEntries es fs
  | _, _ => false

end

mutual

theorem equals_iff : ∀ v w : Value, equals v w = true ↔ v = w
  | .null, w => by cases w <;> simp [equals]
  | .bool _, w => by cases w <;> simp [equals]
  | .int _, w => by cases w <;> simp [equals]
  | .float _, w => by cases w <;> simp [equals]
  | .str _, w => by cases w <;> simp [equals]
  | .sequence as, w => by cases w <;> simp [equals, equalItems_iff as]
  | .mapping as, w => by cases w <;> simp [equals, equalEntries_iff as]
  | .tagged _ a, w => by cases w <;> simp [equals, equals_iff a]

theorem equalItems_iff : ∀ vs ws : List Value, equalItems vs ws = true ↔ vs = ws
  | [], ws => by cases ws <;> simp [equalItems]
  | v :: vs, ws => by cases ws <;> simp [equalItems, equals_iff v, equalItems_iff vs]

theorem equalEntries_iff :
    ∀ es fs : List (Value × Value), equalEntries es fs = true ↔ es = fs
  | [], fs => by cases fs <;> simp [equalEntries]
  | (k, v) :: es, fs => by
    cases fs <;>
      simp [equalEntries, equals_iff k, equals_iff v, equalEntries_iff es, Prod.ext_iff]

end

instance : DecidableEq Value := fun v w => decidable_of_iff (equals v w = true) (equals_iff v w)

end Blueprint.Yaml.Value
