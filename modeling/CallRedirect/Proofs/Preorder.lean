import CallRedirect.Node.Site
import Mathlib.Data.List.Basic

/-! # Trees in document order

`Node.sites` walks a tree with a stack. Here the same listing is given by recursion on the tree: a node, then the
listings of its children one after the other.

* `Node.induct`: induction on a tree by way of its children.
* `Node.preorder`, `Node.nodes`: the listing with and without the nodes around each one.
* `Node.sites_eq_preorder`: the walk gives that listing. -/

namespace CallRedirect
set_option autoImplicit false

namespace Node

/-! ## Induction -/

theorem size_lt_of_mem_children {n c : Node} (h : c ∈ n.children) : c.size < n.size := by
  have hle := size_le_sizes h
  rw [n.size_eq]
  omega

theorem induct {P : Node → Prop} (step : ∀ n : Node, (∀ c ∈ n.children, P c) → P n) (n : Node) : P n :=
  step n fun c hc =>
    have := size_lt_of_mem_children hc
    induct step c
termination_by n.size

/-! ## The listing -/

mutual

/-- The nodes of a tree in document order, each with the nodes around it; `outer` are those around the root. -/
def preorder (outer : List Node) : Node → List Site
  | ⟨kind, named, missing, start, stop, field, children⟩ =>
    ⟨⟨kind, named, missing, start, stop, field, children⟩, outer⟩ ::
      preorders (⟨kind, named, missing, start, stop, field, children⟩ :: outer) children

/-- The same for several trees. -/
def preorders (outer : List Node) : List Node → List Site
  | [] => []
  | n :: ns => n.preorder outer ++ preorders outer ns

end

theorem preorders_eq (outer ns : List Node) : preorders outer ns = ns.flatMap (preorder outer) := by
  induction ns with
  | nil => rfl
  | cons n ns ih => rw [preorders, ih, List.flatMap_cons]

theorem preorder_eq (outer : List Node) (n : Node) :
    n.preorder outer = ⟨n, outer⟩ :: n.children.flatMap (preorder (n :: outer)) := by
  cases n
  rw [preorder, preorders_eq]

/-- The nodes of a tree in document order. -/
def nodes (n : Node) : List Node := (n.preorder []).map Site.node

theorem map_node_preorder (outer outer' : List Node) (n : Node) :
    (n.preorder outer).map Site.node = (n.preorder outer').map Site.node := by
  induction n using induct generalizing outer outer' with
  | step n ih =>
    rw [preorder_eq, preorder_eq, List.map_cons, List.map_cons, List.map_flatMap, List.map_flatMap]
    congr 1
    apply List.flatMap_congr
    intro c hc
    exact ih c hc _ _

theorem nodes_eq (n : Node) : n.nodes = n :: n.children.flatMap nodes := by
  rw [nodes, preorder_eq, List.map_cons, List.map_flatMap]
  congr 1
  apply List.flatMap_congr
  intro c _
  exact map_node_preorder _ _ c

theorem mem_nodes_iff {n m : Node} : m ∈ n.nodes ↔ m = n ∨ ∃ c ∈ n.children, m ∈ c.nodes := by
  rw [nodes_eq, List.mem_cons, List.mem_flatMap]

@[simp] theorem self_mem_nodes (n : Node) : n ∈ n.nodes := mem_nodes_iff.2 (.inl rfl)

theorem mem_nodes_of_child {n c m : Node} (hc : c ∈ n.children) (hm : m ∈ c.nodes) : m ∈ n.nodes :=
  mem_nodes_iff.2 (.inr ⟨c, hc, hm⟩)

theorem child_mem_nodes {n c : Node} (hc : c ∈ n.children) : c ∈ n.nodes :=
  mem_nodes_of_child hc c.self_mem_nodes

theorem node_mem_nodes {outer : List Node} {n : Node} {s : Site} (hs : s ∈ n.preorder outer) : s.node ∈ n.nodes := by
  rw [nodes, map_node_preorder [] outer]
  exact List.mem_map_of_mem hs

theorem self_mem_preorder (outer : List Node) (n : Node) : ⟨n, outer⟩ ∈ n.preorder outer := by
  rw [preorder_eq]
  exact List.mem_cons_self

theorem mem_preorder_of_child {outer : List Node} {n c : Node} {s : Site} (hc : c ∈ n.children)
    (hs : s ∈ c.preorder (n :: outer)) : s ∈ n.preorder outer := by
  rw [preorder_eq]
  exact List.mem_cons_of_mem _ (List.mem_flatMap.2 ⟨c, hc, hs⟩)

theorem mem_nodes_trans {n m k : Node} (hm : m ∈ n.nodes) (hk : k ∈ m.nodes) : k ∈ n.nodes := by
  induction n using induct with
  | step n ih =>
    rcases mem_nodes_iff.1 hm with rfl | ⟨c, hc, hmc⟩
    · exact hk
    · exact mem_nodes_of_child hc (ih c hc hmc)

theorem mem_children_of_child? {n c : Node} {field : String} (h : n.child? field = some c) : c ∈ n.children :=
  List.mem_of_find?_eq_some h

end Node

/-! ## The walk -/

/-- A stack of sites is visited one site after the other, each with all below it. -/
theorem Site.walk_eq_flatMap (stack : List Site) :
    walk stack = stack.flatMap fun s => s.node.preorder s.ancestors := by
  fun_induction walk stack with
  | case1 => rfl
  | case2 s stack ih =>
    rw [ih, List.flatMap_append, List.flatMap_cons, Node.preorder_eq, List.cons_append]
    simp only [Site.children, Site.child, List.flatMap_map]

theorem Node.sites_eq_preorder (root : Node) : root.sites = root.preorder [] := by
  rw [Node.sites, Site.walk_eq_flatMap, List.flatMap_cons, List.flatMap_nil, List.append_nil]

theorem Node.firstFaulty?_eq_none_iff {root : Node} :
    root.firstFaulty? = none ↔ ∀ n ∈ root.nodes, n.faulty = false := by
  rw [firstFaulty?, sites_eq_preorder, List.find?_eq_none]
  simp only [Bool.not_eq_true]
  rfl

end CallRedirect
