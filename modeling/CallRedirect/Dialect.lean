/-! # Dialects

The grammars that a file can be parsed with.
-/

namespace CallRedirect
set_option autoImplicit false

inductive Dialect where
  | js
  | jsx
  | ts
  | tsx
  deriving DecidableEq, Repr, Inhabited

namespace Dialect

def name : Dialect → String
  | js => "js"
  | jsx => "jsx"
  | ts => "ts"
  | tsx => "tsx"

def ofName? : String → Option Dialect
  | "js" => some js
  | "jsx" => some jsx
  | "ts" => some ts
  | "tsx" => some tsx
  | _ => none

/-- The names that tools give to parsers of these grammars. -/
def ofParserName? : String → Option Dialect
  | "javascript" | "babel" | "babylon" => some js
  | "typescript" => some ts
  | s => ofName? s

end Dialect
end CallRedirect
