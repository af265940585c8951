import CallRedirect.CallSite
import CallRedirect.Dialect
import CallRedirect.Session.Ensure

/-! # Settings

What a run is told: the grammar of the files, which calls are redirected, and the function they go to.
-/

namespace CallRedirect
set_option autoImplicit false

structure Settings where
  dialect : Dialect := .ts
  /-- The ambient object whose calls are redirected. -/
  object : String := "console"
  /-- The property of the object that is called. -/
  severity : String := "error"
  /-- The function that is called instead, as its module exports it. -/
  function : String := "logError"
  /-- The module that exports the function. -/
  origin : String := "src/lib.logger"
  /-- The name that the function is imported under. -/
  localName : Option String := none
  deriving DecidableEq, Repr, Inhabited

namespace Settings

/-- The name that redirected calls use. -/
def callee (s : Settings) : String :=
  match s.localName with
  | none => s.function
  | some l => if l.isEmpty then s.function else l

def target (s : Settings) : Target := ⟨s.object, s.severity, s.callee⟩

def request (s : Settings) : Request := ⟨s.function, s.origin, s.localName⟩

/-! ## Fields -/

/-- The fields, in the order in which faults are listed. -/
inductive Field where
  | dialect
  | object
  | severity
  | function
  | origin
  | localName
  deriving DecidableEq, Repr

namespace Field

/-- The key of a field in a settings file. -/
def key : Field → String
  | dialect => "dialect"
  | object => "global_object"
  | severity => "severity"
  | function => "function_name"
  | origin => "import_source"
  | localName => "local_alias"

end Field

end Settings
end CallRedirect
