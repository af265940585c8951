import CallRedirect.Settings.Value
import CallRedirect.Text.Blank
import CallRedirect.Text.Identifier

/-! # Checking settings

`Settings.check` turns what is given into settings: a field that is left out takes its default, and every field that does
not fit is listed with what is wrong about it.
-/

namespace CallRedirect
set_option autoImplicit false

namespace Settings

/-- What can be wrong about a value. -/
inductive Fault where
  | notADialect
  | notAText
  | notAnIdentifier (text : String)
  | blank
  deriving DecidableEq, Repr

namespace Fault

/-- The kind of a fault, as reports name it. -/
def kindName : Fault → String
  | notADialect => "enum"
  | notAText => "string_type"
  | notAnIdentifier _ => "value_error"
  | blank => "value_error"

def message : Fault → String
  | notADialect => "Input should be 'js', 'jsx', 'ts' or 'tsx'"
  | notAText => "Input should be a valid string"
  | notAnIdentifier text => "Value error, Not a valid identifier: '" ++ text ++ "'"
  | blank => "Value error, import_source must not be empty"

end Fault

/-! ## Single fields -/

/-- The dialect of a name, whatever its case and the blanks around it. The names are ASCII, and so only ASCII letters
change case. -/
def dialectOfText? (s : String) : Option Dialect :=
  Dialect.ofParserName? (Text.trim (s.map Char.toLower))

def checkDialect : Value → Except Fault Dialect
  | .text s =>
    match dialectOfText? s with
    | some d => .ok d
    | none => .error .notADialect
  | _ => .error .notADialect

def checkIdentifier : Value → Except Fault String
  | .text s => if Text.isIdentifier s then .ok s else .error (.notAnIdentifier s)
  | _ => .error .notAText

def checkOrigin : Value → Except Fault String
  | .text s => if Text.isBlankText s then .error .blank else .ok s
  | _ => .error .notAText

/-- A local name may be given as missing. -/
def checkLocalName : Value → Except Fault (Option String)
  | .null => .ok none
  | v => (checkIdentifier v).map some

/-! ## All fields -/

/-- A field and what is wrong about its value. -/
structure FieldFault where
  field : Field
  fault : Fault
  deriving DecidableEq, Repr

/-- The checked value of a field, or its default if it is left out. -/
def checkField {α : Type} (given : Given) (field : Field) (check : Value → Except Fault α) (fallback : α) :
    Except FieldFault α :=
  match given field with
  | none => .ok fallback
  | some v => (check v).mapError (⟨field, ·⟩)

/-- The fault of a field, if it has one. -/
def faultOf {α : Type} : Except FieldFault α → List FieldFault
  | .ok _ => []
  | .error f => [f]

/-- The settings given, or the faults of all fields that do not fit. -/
def check (given : Given) : Except (List FieldFault) Settings :=
  let defaults : Settings := {}
  let dialect := checkField given .dialect checkDialect defaults.dialect
  let object := checkField given .object checkIdentifier defaults.object
  let severity := checkField given .severity checkIdentifier defaults.severity
  let function := checkField given .function checkIdentifier defaults.function
  let origin := checkField given .origin checkOrigin defaults.origin
  let localName := checkField given .localName checkLocalName defaults.localName
  match dialect, object, severity, function, origin, localName with
  | .ok dialect, .ok object, .ok severity, .ok function, .ok origin, .ok localName =>
    .ok ⟨dialect, object, severity, function, origin, localName⟩
  | _, _, _, _, _, _ =>
    .error (faultOf dialect ++ faultOf object ++ faultOf severity ++ faultOf function ++ faultOf origin ++
      faultOf localName)

end Settings
end CallRedirect
