import CallRedirect.Node.Basic

/-! # Trees as flat listings

A tree may be written as the list of its nodes in document order, each with the number of its children.
`Node.ofRows?` reads such a listing from its end: a row takes as many of the trees read so far as it has
children, and the last row to be read, the first of the listing, is the root.
-/

namespace CallRedirect
set_option autoImplicit false

/-- One line of a listing: a node without its children, and how many of them follow. -/
structure Row where
  kind : String
  named : Bool
  missing : Bool
  start : Nat
  stop : Nat
  field : Option String
  childCount : Nat
  deriving Repr

namespace Row

def node (r : Row) (children : List Node) : Node :=
  ⟨r.kind, r.named, r.missing, r.start, r.stop, r.field, children⟩

/-- Puts a row on top of the trees read so far; refuses one with more children than there are trees. -/
def gather (r : Row) (trees : List Node) : Option (List Node) :=
  if r.childCount ≤ trees.length then
    some (r.node (trees.take r.childCount) :: trees.drop r.childCount)
  else none

/-- The trees that a listing holds side by side. -/
def forest? : List Row → Option (List Node)
  | [] => some []
  | r :: rows => (forest? rows).bind r.gather

end Row

/-- The tree of a listing; refuses a listing of no tree or of several. -/
def Node.ofRows? (rows : List Row) : Option Node :=
  match Row.forest? rows with
  | some [root] => some root
  | _ => none

end CallRedirect
