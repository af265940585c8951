import CallRedirect.Dialect
import CallRedirect.Source
import CallRedirect.Text.Join

/-! # Failures

The causes for which a file is not processed, and the wording of each.
-/

namespace CallRedirect
set_option autoImplicit false

inductive Failure where
  /-- The text does not fit the grammar; line and column of the first fault. -/
  | malformed (dialect : Dialect) (line column : Nat)
  /-- Several declarations import values from one module; lines of those that stand in the file. -/
  | rivalImports (origin : String) (count : Nat) (lines : List Nat)
  /-- A new statement that is no import has no text. -/
  | unprintable (kind : String)
  /-- Some bytes to be handed out as text are not valid UTF-8. -/
  | undecodable
  /-- A replacement stands inside its own argument region. -/
  | endless
  deriving DecidableEq, Repr

namespace Failure

/-- A message with the position it is about, if there is a line. -/
def located (message : String) (line column : Option Int) : String :=
  match line with
  | none => message
  | some l =>
    message ++ " (line " ++ l.repr ++ ", column " ++ Text.orNone (column.map Int.repr) ++ ")"

def message : Failure → String
  | malformed dialect line column =>
    located ("Could not parse " ++ dialect.name ++ " source") (some line) (some column)
  | rivalImports origin count lines =>
    "Expected at most one value import from '" ++ origin ++ "', found " ++ count.repr ++
      " (lines " ++ Text.listed lines ++ ")"
  | unprintable kind => "Cannot print synthesized '" ++ kind ++ "' statements"
  | undecodable => "The text is not valid UTF-8"
  | endless => "A replacement stands inside its own arguments"

end Failure

/-- The text that some bytes spell. -/
def Bytes.decode (b : Bytes) : Except Failure String :=
  match b.text? with
  | some text => .ok text
  | none => .error .undecodable

end CallRedirect
