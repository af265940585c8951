import CallRedirect.Settings.Basic

/-! # Values of settings

A value given for a setting, or read from a settings file. Only texts and tables are looked into: no setting takes a
value of any other kind.
-/

namespace CallRedirect
set_option autoImplicit false

inductive Value where
  | null
  | boolean
  | integer
  | real
  | text (s : String)
  | date
  | time
  | dateTime
  | list
  | table (entries : List (String × Value))
  deriving Inhabited

namespace Value

/-- The kind of a value, as messages name it. -/
def kindName : Value → String
  | null => "null"
  | boolean => "bool"
  | integer => "int"
  | real => "float"
  | text _ => "str"
  | date => "datetime.date"
  | time => "datetime.time"
  | dateTime => "datetime.datetime"
  | list => "list"
  | table _ => "table"

def isNull : Value → Bool
  | null => true
  | _ => false

/-- The entries of a table. -/
def entries? : Value → Option (List (String × Value))
  | table entries => some entries
  | _ => none

end Value

/-- What is given for each field; `none` for a field that is left out. -/
abbrev Settings.Given := Settings.Field → Option Value

namespace Settings.Given

/-- Reads the fields off a table; other keys do not matter. -/
def ofEntries (entries : List (String × Value)) : Given := fun f => entries.lookup f.key

/-- Nothing is given. -/
def empty : Given := fun _ => none

/-- What is given, but for one field. -/
def set (given : Given) (field : Settings.Field) (v : Value) : Given := fun f =>
  if f = field then some v else given f

/-- What is given in the first place, and else in the second; a null in the first counts as left out. -/
def withFallback (overrides base : Given) : Given := fun f =>
  ((overrides f).filter fun v => !v.isNull).or (base f)

end Settings.Given
end CallRedirect
