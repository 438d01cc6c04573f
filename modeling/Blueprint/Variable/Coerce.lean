import Blueprint.Calendar

/-!
# Value types

The types of variable values. `VarType.coerce` takes a text to the one way in which the payload
writes its value.
-/

namespace Blueprint

inductive VarType where
  | string | int | date | time | datetime | multiline
  deriving DecidableEq, Repr, Inhabited

namespace VarType

def all : List VarType := [string, int, date, time, datetime, multiline]

def name : VarType → String
  | string => "string"
  | int => "int"
  | date => "date"
  | time => "time"
  | datetime => "datetime"
  | multiline => "multiline"

def wire : VarType → String
  | string => "STRING"
  | int => "INT"
  | date => "DATE"
  | time => "TIME"
  | datetime => "DATE_TIME"
  | multiline => "MULTILINE_STRING"

def ofName? (s : String) : Option VarType := all.find? fun t => t.name == s

/-- A text that is no value of the type. -/
structure Mismatch where
  type : VarType
  text : String
  deriving DecidableEq, Repr, Inhabited

def Mismatch.message (m : Mismatch) : String :=
  "'" ++ m.text ++ "' is not " ++
    match m.type with
    | .string | .multiline => "a text"
    | .int => "an integer"
    | .date => "a dd/mm/yyyy date"
    | .time => "an hh:mm time"
    | .datetime => "'dd/mm/yyyy - hh:mm'"

/-- Every text is a string; the other types disregard blanks around their values. -/
def coerce? (t : VarType) (text : String) : Option String :=
  let cs := Text.trimChars text.toList
  match t with
  | .string | .multiline => some text
  | .int => (Text.int64? cs).map toString
  | .date => (Calendar.day? cs).map Calendar.Day.text
  | .time => (Calendar.minute? cs).map Calendar.Minute.text
  | .datetime => (Calendar.both? cs).map fun (d, m) => Calendar.bothText d m

def coerce (t : VarType) (text : String) : Except Mismatch String :=
  match t.coerce? text with
  | some r => .ok r
  | none => .error ⟨t, text⟩

end VarType

end Blueprint
