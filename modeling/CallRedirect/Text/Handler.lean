import CallRedirect.Text.Blank
import CallRedirect.Text.Literal.Reading

/-! # Handlers

A tag such as `[@click=app.open(1, 'x')]` names what handles an event, and with which arguments. The arguments are
literals. In place of a handler there may be arguments alone.

`handlerFault?` is the fault of the arguments.
-/

namespace CallRedirect.Text
set_option autoImplicit false

/-- A character in the name of a handler. -/
def inHandlerName (c : Char) : Bool := Literal.isWordChar c || c == '.'

/-- The characters stand in round brackets, on one line. -/
def isCallList (cs : List Char) : Bool :=
  cs.head? == some '(' && cs.tail.getLast? == some ')' && !cs.contains '\n'

/-- The arguments for a handler: none if its name stands alone, and everything if there is no name before a list of
arguments in brackets. -/
def handlerArguments (s : String) : String :=
  match (trim s).toList.dropWhile inHandlerName with
  | [] => "()"
  | rest => if isCallList rest then String.ofList rest else trim s

/-- Arguments of a handler that are no literals. -/
structure HandlerFault where
  /-- All that stands after the equals sign. -/
  handler : String
  fault : Literal.Fault
  deriving DecidableEq, Repr

def HandlerFault.message (f : HandlerFault) : String :=
  "error parsing " ++
    (if f.fault.isOfValue then "" else inspected (handlerArguments f.handler) ++ " in ") ++
    inspected f.handler ++ "; " ++ f.fault.message

/-- The fault of a handler's arguments. -/
def handlerFault? (handler : String) : Option HandlerFault :=
  match Literal.read (handlerArguments handler) with
  | .ok _ => none
  | .error fault => some ⟨handler, fault⟩

end CallRedirect.Text
