import CallRedirect.Node.Site
import CallRedirect.Replacement
import CallRedirect.Scope.Table

/-! # Call sites

A call site is a call of one property of one object, such as `console.error(e)`: the callee is a plain member access of
an identifier, with no optional chain in the call or in the callee, and the property is not computed.

* `CallSite.match?`: the call site at a node, if there is one for the target.
* `CallSite.all`: all call sites of a tree, in document order, an outer call before those in its arguments.
* `CallSite.replacement`: what puts another callee in place of the member access.
-/

namespace CallRedirect
set_option autoImplicit false

/-- Which calls are redirected, and to which function. -/
structure Target where
  object : String
  severity : String
  callee : String
  deriving DecidableEq, Repr

/-- A call at its site, with its callee and the identifier of the object in it. -/
structure CallSite where
  call : Site
  callee : Node
  object : Node

namespace CallSite

/-- Some child is an optional chain, as a node or as a bare token. -/
def hasOptionalChain (n : Node) : Bool :=
  n.children.any fun c => c.kind == "optional_chain" || c.kind == "?."

/-- The node is of a kind and has a text. -/
def spells (src : Bytes) (kind text : String) (n : Node) : Bool := n.kind == kind && n.text src == text

/-- The identifier of the object, if the node is the member access of the target. -/
def memberObject? (src : Bytes) (t : Target) (callee : Node) : Option Node := do
  if callee.kind != "member_expression" || hasOptionalChain callee then none
  else
    let object ← callee.child? "object"
    let property ← callee.child? "property"
    if spells src "identifier" t.object object && spells src "property_identifier" t.severity property then
      some object
    else none

/-- The call site at a node, if the node is a call of the target. -/
def match? (src : Bytes) (t : Target) (s : Site) : Option CallSite := do
  if s.node.kind != "call_expression" || hasOptionalChain s.node then none
  else
    let callee ← s.node.child? "function"
    let object ← memberObject? src t callee
    some ⟨s, callee, object⟩

/-- The call sites of a tree. -/
def all (src : Bytes) (t : Target) (root : Node) : List CallSite := root.sites.filterMap (match? src t)

/-- The identifier of the object in its place. -/
def objectSite (c : CallSite) : Site := (c.call.child c.callee).child c.object

/-- The declaration that the object of the call refers to; `none` if the object is ambient. -/
def binding? (table : ScopeTable) (t : Target) (c : CallSite) : Option Binding :=
  table.resolve c.objectSite t.object

/-- Puts another callee before the arguments of the call. -/
def replacement (t : Target) (c : CallSite) : Replacement where
  start := c.call.node.start
  stop := c.call.node.stop
  callee := t.callee
  argsStart := c.callee.stop
  argsStop := c.call.node.stop

end CallSite
end CallRedirect
