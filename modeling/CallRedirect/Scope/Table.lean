import CallRedirect.Node.Site
import CallRedirect.Scope.Declaration

/-! # Scopes

A scope is a region of the program, opened by the program itself, a function or a block, that holds the names declared
for it. A name seen from some place means its declaration in the innermost scope around that place that holds one, if
any does.

* `ScopeTable.visitsBelow`: the named nodes of a tree, found with an explicit stack of the nodes still to be visited,
  each with the scopes around it.
* `ScopeTable.ofTree`: all scopes of a tree. Every declaration is entered before any name is looked up.
* `ScopeTable.resolve`: the declaration that a name has at a site.
-/

namespace CallRedirect
set_option autoImplicit false

/-- A name declared in a scope. -/
structure Binding where
  name : String
  kind : Binding.Kind
  /-- The declaring identifier. -/
  node : Node

inductive Scope.Kind where
  | function
  | block
  deriving DecidableEq, Repr

def Scope.Kind.name : Scope.Kind → String
  | function => "function"
  | block => "block"

/-- The kind of scope that a node opens, if it opens one. -/
def Node.scopeKind? (n : Node) : Option Scope.Kind :=
  match n.kind with
  | "function_declaration" | "function" | "function_expression" | "generator_function"
  | "generator_function_declaration" | "arrow_function" | "method_definition" => some .function
  | "statement_block" | "for_statement" | "for_in_statement" | "catch_clause" | "switch_body" | "class"
  | "class_static_block" => some .block
  | _ => none

structure Scope where
  /-- The node that opens it. -/
  node : Node
  kind : Scope.Kind
  /-- The indices of the scopes around it, innermost first; none for the program. -/
  outer : List Nat
  /-- The names declared in it, in the order in which they were declared. -/
  bindings : List Binding := []

namespace Scope

def find? (s : Scope) (name : String) : Option Binding := s.bindings.find? fun b => b.name == name

/-- Declares a name; the first declaration of a name stands. -/
def declare (s : Scope) (b : Binding) : Scope :=
  if (s.find? b.name).isSome then s else { s with bindings := s.bindings ++ [b] }

end Scope

/-- The scopes of a program, by index; the program itself is the first. -/
structure ScopeTable where
  scopes : List Scope

namespace ScopeTable

/-! ## Looking up -/

/-- The first declaration of a name in the scopes of a chain. -/
def lookup (t : ScopeTable) (chain : List Nat) (name : String) : Option Binding :=
  chain.findSome? fun i => t.scopes[i]?.bind fun s => s.find? name

/-- A scope and those around it, innermost first. -/
def chain (t : ScopeTable) (i : Nat) : List Nat := i :: ((t.scopes[i]?.map Scope.outer).getD [])

def isFunction (t : ScopeTable) (i : Nat) : Bool := t.scopes[i]?.any fun s => s.kind == .function

/-- The first function, or the program, in a chain. -/
def functionIn (t : ScopeTable) (chain : List Nat) : Nat := (chain.find? t.isFunction).getD 0

/-- The index of the scope opened by a node with the given key. -/
def openedBy? (t : ScopeTable) (key : Node.Key) : Option Nat :=
  (t.scopes.zipIdx.reverse.find? fun (s, _) => s.node.key == key).map Prod.snd

/-- The innermost scope around a site, the program if there is no other. -/
def scopeOf (t : ScopeTable) (s : Site) : Nat :=
  (s.ancestors.findSome? fun n => t.openedBy? n.key).getD 0

/-- The declaration of a name as seen from a site; `none` if no scope around it holds the name. -/
def resolve (t : ScopeTable) (s : Site) (name : String) : Option Binding :=
  t.lookup (t.chain (t.scopeOf s)) name

/-! ## Visiting -/

/-- A node to be visited, and the scopes around it, innermost first. -/
structure Pending where
  node : Node
  around : List Nat

/-- A visited node, with the scopes around it and those around its children. -/
structure Visit where
  node : Node
  around : List Nat
  within : List Nat

/-- The visit of a node when some number of scopes is open or was: the next scope takes that number. -/
def Pending.visit (p : Pending) (scopes : Nat) : Visit where
  node := p.node
  around := p.around
  within := if p.node.scopeKind?.isSome then scopes :: p.around else p.around

/-- The named children of a visited node. -/
def Visit.children (v : Visit) : List Pending := v.node.namedChildren.map (⟨·, v.within⟩)

@[simp] theorem Visit.map_node_children (v : Visit) : v.children.map Pending.node = v.node.namedChildren := by
  simp [children, Function.comp_def]

/-- Visits the nodes on a stack and all named nodes below them: the top one first, then its children, then the
rest. `scopes` is the number of scopes so far. -/
def visitsOn (scopes : Nat) : List Pending → List Visit
  | [] => []
  | p :: stack =>
    p.visit scopes ::
      visitsOn (if p.node.scopeKind?.isSome then scopes + 1 else scopes) ((p.visit scopes).children ++ stack)
termination_by stack => Node.sizes (stack.map Pending.node)
decreasing_by
  have := p.node.sizes_namedChildren_le
  simp only [List.map_append, Visit.map_node_children, Pending.visit, List.map_cons, Node.sizes_append, Node.sizes_cons,
    Node.size_eq]
  omega

/-- The visit of the program, which is a scope of its own. -/
def programVisit (root : Node) : Visit := ⟨root, [0], [0]⟩

/-- The visits of all named nodes of a program below its root. -/
def visitsBelow (root : Node) : List Visit := visitsOn 1 (programVisit root).children

/-! ## Building -/

/-- Enters the scope that a visited node opens, if it opens one. -/
def enter (t : ScopeTable) (v : Visit) : ScopeTable :=
  match v.node.scopeKind? with
  | none => t
  | some kind => ⟨t.scopes ++ [{ node := v.node, kind := kind, outer := v.around }]⟩

/-- The scope that a declaration of a visited node belongs to. -/
def target (t : ScopeTable) (v : Visit) : Reach → Nat
  | .own => v.within.headD 0
  | .around => v.around.headD 0
  | .function => t.functionIn v.around
  | .program => 0

/-- Enters a declaration of a visited node. -/
def declare (src : Bytes) (v : Visit) (t : ScopeTable) (d : Declaration) : ScopeTable :=
  ⟨t.scopes.modify (t.target v d.reach) (Scope.declare · ⟨d.name.text src, d.kind, d.name⟩)⟩

/-- Enters all that a visited node declares. -/
def declareAll (src : Bytes) (t : ScopeTable) (v : Visit) : ScopeTable :=
  (v.node.declarations src).foldl (declare src v) t

/-- Enters the scope of a visited node and all that the node declares. -/
def record (src : Bytes) (t : ScopeTable) (v : Visit) : ScopeTable := (t.enter v).declareAll src v

/-- The scope of the program, before anything is declared. -/
def program (root : Node) : ScopeTable := ⟨[{ node := root, kind := .function, outer := [] }]⟩

/-- The scopes of a program and all names declared in them. -/
def ofTree (src : Bytes) (root : Node) : ScopeTable :=
  (visitsBelow root).foldl (record src) ((program root).declareAll src (programVisit root))

end ScopeTable
end CallRedirect
