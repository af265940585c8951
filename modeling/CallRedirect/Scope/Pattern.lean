import CallRedirect.Node.Basic

/-! # Binding patterns

A pattern declares the identifiers in its binding positions: the parts of an object or array pattern, the value of a
pair, the left side of a default, the pattern of a typed parameter, the target of a rest. Default values, computed keys
and type annotations hold references only.

`Node.patternNames` finds them with an explicit stack of the nodes still to be looked at.
-/

namespace CallRedirect
set_option autoImplicit false

namespace Node

/-- The node is an identifier that a pattern declares. -/
def isPatternName (n : Node) : Bool :=
  n.kind == "identifier" || n.kind == "shorthand_property_identifier_pattern"

/-- The nodes in the binding positions of a node, in the order in which they are looked at: the targets of a rest
come last first. -/
def bindingPositions (n : Node) : List Node :=
  match n.kind with
  | "object_pattern" | "array_pattern" => n.namedChildren
  | "pair_pattern" => (n.child? "value").toList
  | "assignment_pattern" | "object_assignment_pattern" => (n.child? "left").toList
  | "required_parameter" | "optional_parameter" => (n.child? "pattern").toList
  | "rest_pattern" => (n.namedChildren.filter fun c => c.kind != "type_annotation").reverse
  | _ => []

theorem sizes_bindingPositions_lt (n : Node) : sizes n.bindingPositions < n.size := by
  have key : sizes n.bindingPositions ≤ sizes n.children := by
    unfold bindingPositions
    split
    · exact n.sizes_namedChildren_le
    · exact n.sizes_namedChildren_le
    · exact n.sizes_child?_le _
    · exact n.sizes_child?_le _
    · exact n.sizes_child?_le _
    · exact n.sizes_child?_le _
    · exact n.sizes_child?_le _
    · rw [sizes_reverse]
      exact Nat.le_trans (sizes_filter_le _ _) n.sizes_namedChildren_le
    · simp
  rw [size_eq]
  omega

/-- The identifiers that the patterns on a stack declare. -/
def namesOnStack : List Node → List Node
  | [] => []
  | n :: stack =>
    if n.isPatternName then n :: namesOnStack stack
    else namesOnStack (n.bindingPositions ++ stack)
termination_by stack => sizes stack
decreasing_by
  · have := n.size_eq
    simp only [sizes_cons]
    omega
  · have := n.sizes_bindingPositions_lt
    simp only [sizes_append, sizes_cons]
    omega

/-- The identifiers that a pattern declares; none without a pattern. -/
def patternNames (pattern : Option Node) : List Node := namesOnStack pattern.toList

end Node
end CallRedirect
