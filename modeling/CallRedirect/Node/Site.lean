import CallRedirect.Node.Basic

/-! # Nodes in their place

A `Site` is a node together with the nodes around it, innermost first. `Node.sites` lists every node of a
tree in its place, in document order, with an explicit stack of the sites still to be visited.
-/

namespace CallRedirect
set_option autoImplicit false

structure Site where
  node : Node
  /-- The nodes around it, innermost first. -/
  ancestors : List Node

namespace Site

def child (s : Site) (c : Node) : Site := ⟨c, s.node :: s.ancestors⟩

def children (s : Site) : List Site := s.node.children.map s.child

@[simp] theorem map_node_children (s : Site) : s.children.map Site.node = s.node.children := by
  simp [children, child, Function.comp_def]

/-- Visits the sites on a stack and all below them: the top one first, then its children, then the rest. -/
def walk : List Site → List Site
  | [] => []
  | s :: stack => s :: walk (s.children ++ stack)
termination_by stack => Node.sizes (stack.map Site.node)
decreasing_by
  simp only [List.map_append, List.map_cons, map_node_children, Node.sizes_append, Node.sizes_cons,
    Node.size_eq]
  omega

/-- The part of the file that the site belongs to: the site's node or the first of its ancestors that stands
directly in a program. -/
def top (s : Site) : Node := climb s.node s.ancestors
where
  climb (n : Node) : List Node → Node
    | [] => n
    | p :: outer => if p.kind == "program" then n else climb p outer

end Site

namespace Node

/-- Every node of a tree in its place, in document order. -/
def sites (root : Node) : List Site := Site.walk [⟨root, []⟩]

/-- The first node in document order where the text does not fit the grammar. -/
def firstFaulty? (root : Node) : Option Node := (root.sites.map Site.node).find? Node.faulty

/-- The node that is reported for a tree, which comes with a flag of the parser: nothing is looked at unless the flag says
that something does not fit, and if no node is found then, the root is reported. -/
def fault? (root : Node) (hasError : Bool) : Option Node :=
  if hasError then some (root.firstFaulty?.getD root) else none

/-- What the flag says, if the parser sets it for the nodes that do not fit. -/
def hasFaulty (root : Node) : Bool := root.firstFaulty?.isSome

@[simp] theorem fault?_hasFaulty (root : Node) : root.fault? root.hasFaulty = root.firstFaulty? := by
  unfold fault? hasFaulty
  cases root.firstFaulty? <;> rfl

end Node
end CallRedirect
