import CallRedirect.Source

/-! # Syntax nodes

A syntax tree of a file, as its parser hands it over: every node has a kind, the span of bytes that it
covers, and its children in source order, each perhaps under a field name of its parent. Tokens such as
`(` are nodes that are not named.

* `Node.namedChildren`, `Node.child?`: the two ways to step down.
* `Node.size`: the number of nodes of a tree, the measure by which traversals end.
* `Node.faulty`: a node where the text does not fit the grammar is marked by its kind or as missing.
-/

namespace CallRedirect
set_option autoImplicit false

structure Node where
  kind : String
  named : Bool
  /-- The parser put the node in where the text lacks it. -/
  missing : Bool
  start : Nat
  stop : Nat
  /-- The field of the parent that this node fills. -/
  field : Option String
  children : List Node
  deriving Inhabited

namespace Node

/-! ## Stepping down -/

def namedChildren (n : Node) : List Node := n.children.filter (·.named)

/-- The first child in a field. -/
def child? (n : Node) (field : String) : Option Node :=
  n.children.find? fun c => c.field == some field

def namedChildrenOfKind (n : Node) (kind : String) : List Node :=
  n.namedChildren.filter fun c => c.kind == kind

/-- Some child is the given token. -/
def hasToken (n : Node) (token : String) : Bool :=
  n.children.any fun c => !c.named && c.kind == token

/-! ## Text and position -/

/-- The text that the node covers. -/
def text (src : Bytes) (n : Node) : String := (src.slice n.start n.stop).text

def line (src : Bytes) (n : Node) : Nat := src.line n.start

def column (src : Bytes) (n : Node) : Nat := src.column n.start

/-- What tells two nodes of one tree apart: kind and span. -/
structure Key where
  kind : String
  start : Nat
  stop : Nat
  deriving DecidableEq, Repr

def key (n : Node) : Key := ⟨n.kind, n.start, n.stop⟩

/-- The text does not fit the grammar here. -/
def faulty (n : Node) : Bool := n.kind == "ERROR" || n.missing

/-! ## Size -/

mutual

/-- The number of nodes of a tree. -/
def size : Node → Nat
  | ⟨_, _, _, _, _, _, children⟩ => sizes children + 1

/-- The number of nodes of several trees. -/
def sizes : List Node → Nat
  | [] => 0
  | n :: ns => n.size + sizes ns

end

@[simp] theorem sizes_nil : sizes [] = 0 := rfl

@[simp] theorem sizes_cons (n : Node) (ns : List Node) : sizes (n :: ns) = n.size + sizes ns := rfl

theorem size_eq (n : Node) : n.size = sizes n.children + 1 := by
  cases n
  rfl

@[simp] theorem sizes_append (ns ms : List Node) : sizes (ns ++ ms) = sizes ns + sizes ms := by
  induction ns with
  | nil => simp
  | cons n ns ih => simp [ih, Nat.add_assoc]

@[simp] theorem sizes_reverse (ns : List Node) : sizes ns.reverse = sizes ns := by
  induction ns with
  | nil => simp
  | cons n ns ih => simp [ih, Nat.add_comm]

theorem sizes_filter_le (p : Node → Bool) (ns : List Node) : sizes (ns.filter p) ≤ sizes ns := by
  induction ns with
  | nil => simp
  | cons n ns ih =>
    by_cases h : p n
    · simp [h, ih]
    · simp only [List.filter_cons_of_neg h, sizes_cons]
      omega

theorem size_le_sizes {n : Node} {ns : List Node} (h : n ∈ ns) : n.size ≤ sizes ns := by
  induction ns with
  | nil => cases h
  | cons m ns ih =>
    rcases List.mem_cons.1 h with rfl | h
    · simp
    · have := ih h
      simp only [sizes_cons]
      omega

theorem sizes_namedChildren_le (n : Node) : sizes n.namedChildren ≤ sizes n.children :=
  sizes_filter_le _ _

theorem sizes_child?_le (n : Node) (field : String) :
    sizes (n.child? field).toList ≤ sizes n.children := by
  cases h : n.child? field with
  | none => simp
  | some c => simpa using size_le_sizes (List.mem_of_find?_eq_some h)

end Node
end CallRedirect
