import CallRedirect.Proofs.Resolution
import Mathlib.Data.List.Lex
import Mathlib.Logic.Function.Iterate

/-! # Traversals with a stack

`Node.sites` and `ScopeTable.ofTree` go through a tree with a stack, on which the later siblings of all nodes around the
current one wait. Nodes that are alike may stand in several places, so here they are told apart by the paths that lead to
them, and the order of a traversal is the order of these paths. Nothing is asked of the tree.

* `Node.spots`: the nodes of a tree with their paths, by recursion on the tree.
* `Node.inDocumentOrder_spots`: they are listed in the lexicographic order of their paths, each once.
* `ScopeTable.NearestScope`: the scope around a place.
* `ScopeTable.Progress`: what holds between two rounds of building a table; `Progress.round` is one round and
  `Progress.iterate` any number of them.
* `ScopeTable.traversals_inDocumentOrder`: what both traversals find, and which scope each named node is found with. -/

namespace CallRedirect
set_option autoImplicit false

/-! ## Places in a tree -/

/-- A node in its place, which is the path of child indices that leads to it. -/
structure Spot where
  path : List Nat
  node : Node

/-- The children of a node that may be entered, in their places. -/
def Spot.children (enter : Node → Bool) (p : Spot) : List Spot :=
  (p.node.children.zipIdx.filter fun c => enter c.1).map fun c => ⟨p.path ++ [c.2], c.1⟩

namespace Node

/-- The node that a path leads to, if all nodes on the way but the first may be entered. -/
def at? (enter : Node → Bool) (n : Node) : List Nat → Option Node
  | [] => some n
  | i :: path => (n.children[i]?.filter enter).bind fun c => c.at? enter path

mutual

/-- The nodes of a tree in their places, a node before those below it; `path` leads to the root. What is below a node that
may not be entered is left out. -/
def spotsAt (enter : Node → Bool) (path : List Nat) : Node → List Spot
  | ⟨kind, named, missing, start, stop, field, children⟩ =>
    ⟨path, ⟨kind, named, missing, start, stop, field, children⟩⟩ :: spotsFrom enter path 0 children

/-- The same for the children of a node from some index on. -/
def spotsFrom (enter : Node → Bool) (path : List Nat) (i : Nat) : List Node → List Spot
  | [] => []
  | c :: cs => (if enter c then c.spotsAt enter (path ++ [i]) else []) ++ spotsFrom enter path (i + 1) cs

end

/-- The nodes of a tree in their places, a node before those below it. -/
def spots (enter : Node → Bool) (root : Node) : List Spot := root.spotsAt enter []

end Node

/-- The nodes that paths lead to are listed in document order. That is the lexicographic order of the paths, in which a
node comes before all nodes below it, and these come before its later siblings. Every path is there once. -/
structure InDocumentOrder (at? : List Nat → Option Node) (spots : List Spot) : Prop where
  ordered : spots.Pairwise fun p q => p.path < q.path
  complete : ∀ p : Spot, p ∈ spots ↔ at? p.path = some p.node

/-- The node of a spot, with all below it that may be entered. -/
def Spot.below (enter : Node → Bool) (p : Spot) : List Spot := p.node.spotsAt enter p.path

section Spots
variable {enter : Node → Bool}

theorem Spot.mem_children_iff {p q : Spot} :
    q ∈ p.children enter ↔
      ∃ i c, p.node.children[i]? = some c ∧ enter c = true ∧ q = ⟨p.path ++ [i], c⟩ := by
  simp only [children, List.mem_map, List.mem_filter, List.mem_zipIdx_iff_getElem?, Prod.exists]
  constructor
  · rintro ⟨c, i, ⟨hc, henter⟩, rfl⟩
    exact ⟨i, c, hc, henter, rfl⟩
  · rintro ⟨i, c, hc, henter, rfl⟩
    exact ⟨c, i, ⟨hc, henter⟩, rfl⟩

theorem Spot.map_node_children (enter : Node → Bool) (p : Spot) :
    (p.children enter).map Spot.node = p.node.children.filter enter := by
  have hfilter := @List.filter_map _ _ Prod.fst enter p.node.children.zipIdx
  rw [List.zipIdx_map_fst] at hfilter
  rw [children, List.map_map, hfilter]
  rfl

/-- Of two children, the one that is listed later has the greater index. -/
theorem Spot.pairwise_children (enter : Node → Bool) (p : Spot) :
    (p.children enter).Pairwise fun q r => ∃ i j, i < j ∧ q.path = p.path ++ [i] ∧ r.path = p.path ++ [j] := by
  have hindices : p.node.children.zipIdx.Pairwise fun c d => c.2 < d.2 := by
    rw [← List.pairwise_map, List.zipIdx_map_snd]
    exact List.pairwise_lt_range' 1
  rw [children, List.pairwise_map]
  exact (hindices.sublist List.filter_sublist).imp fun {c d} hlt => ⟨c.2, d.2, hlt, rfl, rfl⟩

theorem Node.spotsFrom_eq (path : List Nat) (i : Nat) (cs : List Node) :
    spotsFrom enter path i cs =
      ((cs.zipIdx i).filter fun c => enter c.1).flatMap fun c => c.1.spotsAt enter (path ++ [c.2]) := by
  induction cs generalizing i with
  | nil => rfl
  | cons c cs ih =>
    rw [spotsFrom, ih, List.zipIdx_cons, List.filter_cons]
    cases enter c with
    | true => rfl
    | false => rfl

theorem Spot.below_eq (p : Spot) : p.below enter = p :: (p.children enter).flatMap (below enter) := by
  obtain ⟨path, n⟩ := p
  cases n
  rw [below, Node.spotsAt, Node.spotsFrom_eq, children, List.flatMap_map]
  rfl

theorem Node.at?_cons_eq_some_iff {n m : Node} {i : Nat} {path : List Nat} :
    n.at? enter (i :: path) = some m ↔
      ∃ c, n.children[i]? = some c ∧ enter c = true ∧ c.at? enter path = some m := by
  simp only [at?, Option.bind_eq_some_iff, Option.filter_eq_some_iff, and_assoc]

theorem Node.at?_concat {n m c : Node} {path : List Nat} {i : Nat} (hm : n.at? enter path = some m)
    (hc : m.children[i]? = some c) (henter : enter c = true) : n.at? enter (path ++ [i]) = some c := by
  induction path generalizing n with
  | nil =>
    obtain rfl := Option.some.inj hm
    exact at?_cons_eq_some_iff.2 ⟨c, hc, henter, rfl⟩
  | cons j path ih =>
    obtain ⟨d, hd, hdenter, hdm⟩ := at?_cons_eq_some_iff.1 hm
    exact at?_cons_eq_some_iff.2 ⟨d, hd, hdenter, ih hdm⟩

theorem Node.mem_spotsAt_iff {n : Node} {path : List Nat} {p : Spot} :
    p ∈ n.spotsAt enter path ↔ ∃ rest, p.path = path ++ rest ∧ n.at? enter rest = some p.node := by
  induction n using induct generalizing path with
  | step n ih =>
    show p ∈ Spot.below enter ⟨path, n⟩ ↔ _
    rw [Spot.below_eq, List.mem_cons, List.mem_flatMap]
    constructor
    · rintro (rfl | ⟨q, hq, hp⟩)
      · exact ⟨[], (List.append_nil path).symm, rfl⟩
      · obtain ⟨i, c, hc, henter, rfl⟩ := Spot.mem_children_iff.1 hq
        obtain ⟨rest, hpath, hrest⟩ := (ih c (List.mem_of_getElem? hc)).1 hp
        exact ⟨i :: rest, by rw [hpath, List.append_assoc]; rfl, at?_cons_eq_some_iff.2 ⟨c, hc, henter, hrest⟩⟩
    · rintro ⟨rest, hpath, hrest⟩
      cases rest with
      | nil =>
        left
        obtain ⟨ppath, pnode⟩ := p
        obtain rfl : n = pnode := Option.some.inj hrest
        obtain rfl : ppath = path := hpath.trans (List.append_nil path)
        rfl
      | cons i rest =>
        right
        obtain ⟨c, hc, henter, hrest⟩ := at?_cons_eq_some_iff.1 hrest
        refine ⟨⟨path ++ [i], c⟩, Spot.mem_children_iff.2 ⟨i, c, hc, henter, rfl⟩, ?_⟩
        exact (ih c (List.mem_of_getElem? hc)).2 ⟨rest, by rw [hpath, List.append_assoc]; rfl, hrest⟩

theorem Spot.prefix_of_mem_below {p q : Spot} (h : q ∈ p.below enter) : p.path <+: q.path := by
  obtain ⟨rest, hpath, -⟩ := Node.mem_spotsAt_iff.1 h
  exact ⟨rest, hpath.symm⟩

theorem Node.pairwise_spotsAt (n : Node) (path : List Nat) :
    (n.spotsAt enter path).Pairwise fun p q => p.path < q.path := by
  induction n using induct generalizing path with
  | step n ih =>
    show (Spot.below enter ⟨path, n⟩).Pairwise _
    rw [Spot.below_eq, List.pairwise_cons, List.pairwise_flatMap]
    refine ⟨fun q hq => ?_, fun q hq => ?_, (Spot.pairwise_children enter _).imp fun {q r} hqr x hx y hy => ?_⟩
    · -- a path is before those that go on from it
      obtain ⟨p, hp, hbelow⟩ := List.mem_flatMap.1 hq
      obtain ⟨i, c, -, -, rfl⟩ := Spot.mem_children_iff.1 hp
      obtain ⟨rest, hpath⟩ := Spot.prefix_of_mem_below hbelow
      have hlt : path ++ [] < path ++ i :: rest := List.append_left_lt (List.nil_lt_cons i rest)
      rw [List.append_nil] at hlt
      rw [← hpath, List.append_assoc]
      exact hlt
    · obtain ⟨i, c, hc, -, rfl⟩ := Spot.mem_children_iff.1 hq
      exact ih c (List.mem_of_getElem? hc) _
    · -- paths through different children differ in that step
      obtain ⟨i, j, hij, hqpath, hrpath⟩ := hqr
      obtain ⟨xs, hx⟩ := Spot.prefix_of_mem_below hx
      obtain ⟨ys, hy⟩ := Spot.prefix_of_mem_below hy
      rw [← hx, ← hy, hqpath, hrpath, List.append_assoc, List.append_assoc]
      exact List.append_left_lt (List.cons_lt_cons_iff.2 (.inl hij))

theorem Node.inDocumentOrder_spots (enter : Node → Bool) (root : Node) :
    InDocumentOrder (root.at? enter) (root.spots enter) := by
  refine ⟨root.pairwise_spotsAt [], fun p => ?_⟩
  rw [spots, mem_spotsAt_iff]
  simp

/-! ## The walk over all nodes -/

theorem Node.map_node_spotsAt (n : Node) (path : List Nat) :
    (n.spotsAt (fun _ => true) path).map Spot.node = n.nodes := by
  induction n using induct generalizing path with
  | step n ih =>
    show (Spot.below _ ⟨path, n⟩).map Spot.node = _
    have hchildren : (Spot.children (fun _ => true) ⟨path, n⟩).flatMap (fun p => p.node.nodes) =
        n.children.flatMap nodes := by
      rw [← List.flatMap_map Spot.node nodes, Spot.map_node_children, List.filter_true]
    rw [Spot.below_eq, List.map_cons, List.map_flatMap, nodes_eq, ← hchildren]
    congr 1
    apply List.flatMap_congr
    intro q hq
    obtain ⟨i, c, hc, -, rfl⟩ := Spot.mem_children_iff.1 hq
    exact ih c (List.mem_of_getElem? hc) _

end Spots

theorem Node.length_flatMap_preorder {outer ns : List Node} (h : ∀ n ∈ ns, (n.preorder outer).length = n.size) :
    (ns.flatMap (preorder outer)).length = sizes ns := by
  induction ns with
  | nil => rfl
  | cons n ns ih =>
    rw [List.forall_mem_cons] at h
    rw [List.flatMap_cons, List.length_append, h.1, ih h.2, sizes_cons]

theorem Node.length_preorder (outer : List Node) (n : Node) : (n.preorder outer).length = n.size := by
  induction n using induct generalizing outer with
  | step n ih => rw [preorder_eq, List.length_cons, length_flatMap_preorder fun c hc => ih c hc _, size_eq]

/-- One round of the walk, on the stack and the sites found so far: the site on top of the stack is found, and gives way to
its children. -/
def Site.walkRound : List Site × List Site → List Site × List Site
  | ([], found) => ([], found)
  | (s :: stack, found) => (s.children ++ stack, found ++ [s])

theorem Site.iterate_walkRound (stack found : List Site) :
    walkRound^[(walk stack).length] (stack, found) = ([], found ++ walk stack) := by
  fun_induction walk stack generalizing found with
  | case1 => simp
  | case2 s stack ih =>
    rw [List.length_cons, Function.iterate_succ_apply, walkRound, ih, List.append_assoc, List.singleton_append]

/-- The walk ends after as many rounds as the tree has nodes. -/
theorem Node.iterate_walkRound (root : Node) : Site.walkRound^[root.size] ([⟨root, []⟩], []) = ([], root.sites) := by
  rw [← root.length_preorder [], ← sites_eq_preorder]
  exact Site.iterate_walkRound [⟨root, []⟩] []

/-! ## Scopes around places -/

/-- The spot opens a scope. The one that the root opens is the program. -/
def Spot.opensScope (p : Spot) : Bool := p.path.isEmpty || p.node.opensScope

theorem Spot.opensScope_below {p : Spot} (h : p.path ≠ []) : p.opensScope = p.node.opensScope := by
  simp [opensScope, h]

/-- The named nodes that open scopes, in document order. -/
def Node.scopeSpots (root : Node) : List Spot := (root.spots Node.named).filter Spot.opensScope

namespace ScopeTable

/-- One spot is above another, and the nodes between them open no scope. A path without its last step leads to the parent.
For the root this is the root again, so what is nearest around it is the program. -/
structure NearestScope (root : Node) (outer inner : Spot) : Prop where
  above : outer.path <+: inner.path.dropLast
  nearest : ∀ path n, root.at? (fun _ => true) path = some n → n.opensScope = true → path <+: inner.path.dropLast →
    path <+: outer.path

/-- The indices are those of the nearest scope around a spot and of the scopes around that; `opened` are the spots of the
scopes of the table. -/
def Surrounds (root : Node) (opened : List Spot) (t : ScopeTable) (p : Spot) (around : List Nat) : Prop :=
  ∃ i outer, opened[i]? = some outer ∧ NearestScope root outer p ∧ around = t.chain i

/-- The table has one scope for each of some spots, in their order. The first one has no parent. Each other one has the
nearest scope around it as its parent, and comes after it. -/
structure Registers (root : Node) (opened : List Spot) (t : ScopeTable) : Prop where
  nodes : t.scopes.map Scope.node = opened.map Spot.node
  program : (t.scopes.map Scope.outer).head? = some []
  parents : ∀ k p, opened[k + 1]? = some p → ∃ i ≤ k, ∃ outer, opened[i]? = some outer ∧ NearestScope root outer p ∧
    (t.scopes.map Scope.outer)[k + 1]? = some (t.chain i)

theorem NearestScope.root (root : Node) : NearestScope root ⟨[], root⟩ ⟨[], root⟩ :=
  ⟨List.prefix_rfl, fun _ _ _ _ h => h⟩

/-- Nothing is between a node and its children. -/
theorem NearestScope.parent (root : Node) (p : Spot) (i : Nat) (c : Node) :
    NearestScope root p ⟨p.path ++ [i], c⟩ := by
  refine ⟨⟨[], ?_⟩, fun path n _ _ h => ?_⟩
  · rw [List.append_nil, List.dropLast_concat]
  · rwa [List.dropLast_concat] at h

/-- What is nearest around a node that opens no scope is nearest around its children. -/
theorem NearestScope.child {root : Node} {outer p : Spot} (h : NearestScope root outer p)
    (hat : root.at? (fun _ => true) p.path = some p.node) (hopens : ¬ p.node.opensScope = true) (i : Nat) (c : Node) :
    NearestScope root outer ⟨p.path ++ [i], c⟩ := by
  refine ⟨?_, fun path n hn hnopens hpath => ?_⟩
  · rw [List.dropLast_concat]
    exact h.above.trans (List.dropLast_prefix _)
  · rw [List.dropLast_concat] at hpath
    refine h.nearest path n hn hnopens ?_
    rcases List.eq_nil_or_concat' p.path with hnil | ⟨parent, j, hparent⟩
    · rwa [hnil] at hpath ⊢
    · rw [hparent, List.prefix_concat_iff, ← hparent] at hpath
      rw [hparent, List.dropLast_concat]
      refine hpath.resolve_left fun heq => hopens ?_
      rw [heq, hat] at hn
      rwa [Option.some.inj hn]

/-! ## What recording changes -/

section Record
variable (src : Bytes)

theorem map_scopes_declareAll {α : Type} {f : Scope → α} (hf : ∀ scope b, f (Scope.declare scope b) = f scope)
    (t : ScopeTable) (v : Visit) : (t.declareAll src v).scopes.map f = t.scopes.map f := by
  rw [declareAll]
  induction v.node.declarations src generalizing t with
  | nil => rfl
  | cons d ds ih =>
    rw [List.foldl_cons, ih, declare]
    apply List.ext_getElem?
    intro i
    simp only [List.getElem?_map, List.getElem?_modify, Option.map_eq_map, Option.map_map, Function.comp_def]
    congr 1
    funext scope
    split
    · exact hf _ _
    · rfl

theorem node_declare (scope : Scope) (b : Binding) : (scope.declare b).node = scope.node := by
  rw [Scope.declare]
  split <;> rfl

theorem outer_declare (scope : Scope) (b : Binding) : (scope.declare b).outer = scope.outer := by
  rw [Scope.declare]
  split <;> rfl

/-- What declarations leave alone in scopes is only added to when a node is recorded, by the scope that the node opens. -/
theorem map_scopes_record {α : Type} {f : Scope → α} (hf : ∀ scope b, f (Scope.declare scope b) = f scope) (t : ScopeTable)
    (v : Visit) {a : α} (ha : ∀ kind, f { node := v.node, kind := kind, outer := v.around } = a) :
    (t.record src v).scopes.map f = t.scopes.map f ++ if v.node.opensScope then [a] else [] := by
  rw [record, map_scopes_declareAll src hf, enter, Node.opensScope]
  cases v.node.scopeKind? with
  | none => simp
  | some kind => simp [ha]

theorem map_node_record (t : ScopeTable) (v : Visit) :
    (t.record src v).scopes.map Scope.node = t.scopes.map Scope.node ++ if v.node.opensScope then [v.node] else [] :=
  map_scopes_record src node_declare t v fun _ => rfl

theorem map_outer_record (t : ScopeTable) (v : Visit) :
    (t.record src v).scopes.map Scope.outer = t.scopes.map Scope.outer ++ if v.node.opensScope then [v.around] else [] :=
  map_scopes_record src outer_declare t v fun _ => rfl

/-- The scope that a node opens has the scopes around the node around it. -/
theorem outer_record_last (t : ScopeTable) {v : Visit} (h : v.node.opensScope = true) :
    ((t.record src v).scopes.map Scope.outer)[t.scopes.length]? = some v.around := by
  have hlast := @List.getElem?_concat_length _ (t.scopes.map Scope.outer) v.around
  rw [map_outer_record, if_pos h]
  rwa [List.length_map] at hlast

theorem length_record (t : ScopeTable) (v : Visit) :
    (t.record src v).scopes.length = if v.node.opensScope then t.scopes.length + 1 else t.scopes.length := by
  have hlength := congrArg List.length (map_node_record src t v)
  rw [List.length_map, List.length_append, List.length_map] at hlength
  rw [hlength]
  split <;> rfl

theorem chain_eq (t : ScopeTable) (i : Nat) : t.chain i = i :: ((t.scopes.map Scope.outer)[i]?).getD [] := by
  rw [chain, List.getElem?_map]

/-- The scopes around a scope stay what they are. -/
theorem chain_record (t : ScopeTable) (v : Visit) {i : Nat} (hi : i < t.scopes.length) :
    (t.record src v).chain i = t.chain i := by
  rw [chain_eq, chain_eq, map_outer_record, List.getElem?_append_left (by rwa [List.length_map])]

end Record

/-! ## Building the table -/

/-- What is at hand between two rounds of building a table. -/
structure Building where
  stack : List Pending
  visited : List Visit
  table : ScopeTable

namespace Building

/-- The root has been visited. -/
def start (src : Bytes) (root : Node) : Building where
  stack := (programVisit root).children
  visited := [programVisit root]
  table := (program root).declareAll src (programVisit root)

/-- One round: the node on top of the stack is visited and recorded, and gives way to its named children. -/
def round (src : Bytes) (b : Building) : Building :=
  match b.stack with
  | [] => b
  | p :: stack =>
    let v := p.visit b.table.scopes.length
    ⟨v.children ++ stack, b.visited ++ [v], b.table.record src v⟩

theorem iterate_round (src : Bytes) (stack : List Pending) (visited : List Visit) (t : ScopeTable) :
    (round src)^[(visitsOn t.scopes.length stack).length] ⟨stack, visited, t⟩ =
      ⟨[], visited ++ visitsOn t.scopes.length stack, (visitsOn t.scopes.length stack).foldl (record src) t⟩ := by
  generalize hn : t.scopes.length = n
  fun_induction visitsOn n stack generalizing visited t with
  | case1 => simp
  | case2 n p stack ih =>
    subst hn
    have hrest := ih (visited ++ [p.visit t.scopes.length]) (t.record src (p.visit t.scopes.length)) (length_record src t _)
    rw [List.append_assoc, List.singleton_append] at hrest
    rw [List.length_cons, Function.iterate_succ_apply, List.foldl_cons]
    exact hrest

/-- There is one round for each node below the root that is visited. -/
theorem iterate_round_start (src : Bytes) (root : Node) :
    (round src)^[(visitsBelow root).length] (start src root) =
      ⟨[], programVisit root :: visitsBelow root, ofTree src root⟩ := by
  have hlength : (start src root).table.scopes.length = 1 := by
    have hnodes := congrArg List.length (map_scopes_declareAll src node_declare (program root) (programVisit root))
    rwa [List.length_map, List.length_map] at hnodes
  have hrounds := iterate_round src (programVisit root).children [programVisit root] (start src root).table
  rw [hlength] at hrounds
  exact hrounds

end Building

/-- A node is visited at a spot, with the nearest scope around it. -/
structure VisitedAt (root : Node) (opened : List Spot) (t : ScopeTable) (p : Spot) (v : Visit) : Prop where
  node : v.node = p.node
  around : Surrounds root opened t p v.around

/-- A node waits at a spot below the root, with the nearest scope around it. -/
structure WaitsAt (root : Node) (opened : List Spot) (t : ScopeTable) (p : Spot) (q : Pending) : Prop where
  node : q.node = p.node
  around : Surrounds root opened t p q.around
  below : p.path ≠ []
  inside : root.at? (fun _ => true) p.path = some p.node

/-- What holds between two rounds. The visited nodes are some first ones in document order, and the others follow: those on
the stack, each with all below it. The scopes of the table are those that the visited nodes open. -/
structure Progress (root : Node) (done todo : List Spot) (b : Building) : Prop where
  listed : done ++ todo.flatMap (Spot.below Node.named) = root.spots Node.named
  visited : List.Forall₂ (VisitedAt root (done.filter Spot.opensScope) b.table) done b.visited
  stack : List.Forall₂ (WaitsAt root (done.filter Spot.opensScope) b.table) todo b.stack
  registers : Registers root (done.filter Spot.opensScope) b.table

section Rounds
variable {src : Bytes} {root : Node} {opened done todo : List Spot} {t : ScopeTable}

theorem Registers.length_scopes (h : Registers root opened t) : t.scopes.length = opened.length := by
  have hlength := congrArg List.length h.nodes
  rwa [List.length_map, List.length_map] at hlength

/-- The nearest scope around a spot stays what it is when more nodes are recorded. -/
theorem Surrounds.record {p : Spot} {around : List Nat} (h : Surrounds root opened t p around)
    (hregisters : Registers root opened t) (src : Bytes) (v : Visit) (more : List Spot) :
    Surrounds root (opened ++ more) (t.record src v) p around := by
  obtain ⟨i, outer, hi, hnearest, rfl⟩ := h
  have hlt : i < opened.length := (List.getElem?_eq_some_iff.1 hi).1
  refine ⟨i, outer, by rw [List.getElem?_append_left hlt, hi], hnearest, ?_⟩
  rw [chain_record src t v (hregisters.length_scopes ▸ hlt)]

/-- The scope that a visited node opens is added after that of its parent. -/
theorem Registers.record (h : Registers root opened t) (src : Bytes) {p : Spot} {v : Visit} (hbelow : p.path ≠ [])
    (hv : VisitedAt root opened t p v) :
    Registers root (opened ++ [p].filter Spot.opensScope) (t.record src v) := by
  have hopens := Spot.opensScope_below hbelow
  refine ⟨?_, ?_, fun k q hq => ?_⟩
  · rw [map_node_record, h.nodes, hv.node, List.map_append, List.filter_singleton, hopens]
    cases p.node.opensScope <;> rfl
  · rw [map_outer_record, List.head?_append, h.program, Option.some_or]
  · by_cases hk : k + 1 < opened.length
    · rw [List.getElem?_append_left hk] at hq
      obtain ⟨i, hi, outer, houter, hnearest, hchain⟩ := h.parents k q hq
      have hlt : i < opened.length := by omega
      refine ⟨i, hi, outer, by rw [List.getElem?_append_left hlt, houter], hnearest, ?_⟩
      rw [chain_record src t v (h.length_scopes ▸ hlt), map_outer_record, List.getElem?_append_left, hchain]
      rwa [List.length_map, h.length_scopes]
    · -- the scope is the new one, and the node was visited with its parent
      rw [List.getElem?_append_right (Nat.le_of_not_lt hk)] at hq
      obtain ⟨hmem, hqopens⟩ := List.mem_filter.1 (List.mem_of_getElem? hq)
      obtain rfl := List.mem_singleton.1 hmem
      rw [List.filter_singleton, hqopens, cond_true] at hq
      have hlast : k + 1 = opened.length := by
        have := (List.getElem?_eq_some_iff.1 hq).1
        rw [List.length_singleton] at this
        omega
      obtain ⟨i, outer, hi, hnearest, haround⟩ := hv.around
      have hlt : i < opened.length := (List.getElem?_eq_some_iff.1 hi).1
      refine ⟨i, by omega, outer, by rw [List.getElem?_append_left hlt, hi], hnearest, ?_⟩
      have hvopens : v.node.opensScope = true := by rw [hv.node, ← hopens, hqopens]
      rw [chain_record src t v (h.length_scopes ▸ hlt), hlast, ← h.length_scopes, outer_record_last src t hvopens, haround]

theorem VisitedAt.record {p : Spot} {v : Visit} (hv : VisitedAt root opened t p v) (h : Registers root opened t) (src : Bytes)
    (w : Visit) (more : List Spot) : VisitedAt root (opened ++ more) (t.record src w) p v :=
  ⟨hv.node, hv.around.record h src w more⟩

theorem WaitsAt.visit {p : Spot} {q : Pending} (hq : WaitsAt root opened t p q) (n : Nat) :
    VisitedAt root opened t p (q.visit n) := ⟨hq.node, hq.around⟩

/-- The scope within a visited node is the nearest around its children. -/
theorem WaitsAt.surrounds_child {p : Spot} {q : Pending} (hq : WaitsAt root opened t p q) (h : Registers root opened t)
    (src : Bytes) (i : Nat) (c : Node) :
    Surrounds root (opened ++ [p].filter Spot.opensScope) (t.record src (q.visit t.scopes.length)) ⟨p.path ++ [i], c⟩
      (q.visit t.scopes.length).within := by
  have hwithin : (q.visit t.scopes.length).within = if p.node.opensScope then t.scopes.length :: q.around else q.around := by
    rw [← hq.node]
    rfl
  by_cases hp : p.node.opensScope = true
  · have hopened : (opened ++ [p].filter Spot.opensScope)[t.scopes.length]? = some p := by
      rw [List.filter_singleton, Spot.opensScope_below hq.below, hp, h.length_scopes]
      exact List.getElem?_concat_length
    refine ⟨t.scopes.length, p, hopened, .parent root p i c, ?_⟩
    have hnode : (q.visit t.scopes.length).node.opensScope = true := (congrArg Node.opensScope hq.node).trans hp
    rw [hwithin, if_pos hp, chain_eq, outer_record_last src t hnode]
    rfl
  · obtain ⟨k, outer, hk, hnearest, haround⟩ := hq.around
    rw [hwithin, if_neg hp]
    exact Surrounds.record ⟨k, outer, hk, hnearest.child hq.inside hp i c, haround⟩ h src _ _

theorem waitsAt_children {p : Spot} {v : Visit} (hnode : v.node = p.node)
    (hinside : root.at? (fun _ => true) p.path = some p.node)
    (hwithin : ∀ i c, Surrounds root opened t ⟨p.path ++ [i], c⟩ v.within) :
    List.Forall₂ (WaitsAt root opened t) (p.children Node.named) v.children := by
  rw [Visit.children, hnode, Node.namedChildren, ← Spot.map_node_children Node.named p, List.map_map,
    List.forall₂_map_right_iff, List.forall₂_same]
  intro s hs
  obtain ⟨i, c, hc, -, rfl⟩ := Spot.mem_children_iff.1 hs
  exact ⟨rfl, hwithin i c, by simp, Node.at?_concat hinside hc rfl⟩

theorem Progress.start (src : Bytes) (root : Node) :
    Progress root [⟨[], root⟩] (Spot.children Node.named ⟨[], root⟩) (Building.start src root) := by
  have hnodes : (Building.start src root).table.scopes.map Scope.node = [root] := map_scopes_declareAll src node_declare _ _
  have houter : (Building.start src root).table.scopes.map Scope.outer = [[]] := map_scopes_declareAll src outer_declare _ _
  have hchain : [0] = (Building.start src root).table.chain 0 := by rw [chain_eq, houter]; rfl
  refine ⟨(Spot.below_eq ⟨[], root⟩).symm, .cons ⟨rfl, 0, _, rfl, .root root, hchain⟩ .nil, ?_,
    ⟨hnodes, by rw [houter]; rfl, nofun⟩⟩
  exact waitsAt_children rfl rfl fun i c => ⟨0, _, rfl, .parent root ⟨[], root⟩ i c, hchain⟩

/-- One round visits the next node in document order. -/
theorem Progress.round {b : Building} (h : Progress root done todo b) (src : Bytes) :
    ∃ done' todo', Progress root done' todo' (b.round src) := by
  obtain ⟨stack, visited, t⟩ := b
  obtain ⟨hlisted, hvisited, hstack, hregisters⟩ := h
  cases hstack with
  | nil => exact ⟨done, [], hlisted, hvisited, .nil, hregisters⟩
  | @cons p q todo stack hq hstack =>
    have hopened : (done ++ [p]).filter Spot.opensScope = done.filter Spot.opensScope ++ [p].filter Spot.opensScope :=
      List.filter_append ..
    refine ⟨done ++ [p], p.children Node.named ++ todo, ?_, ?_, ?_, ?_⟩
    · rw [← hlisted, List.flatMap_cons, Spot.below_eq, List.flatMap_append, List.append_assoc]
      rfl
    · rw [hopened]
      refine List.rel_append (hvisited.imp fun r v hr => hr.record hregisters src _ _) (.cons ?_ .nil)
      exact (hq.visit _).record hregisters src _ _
    · rw [hopened]
      refine List.rel_append (waitsAt_children hq.node hq.inside (hq.surrounds_child hregisters src)) ?_
      exact hstack.imp fun r v hr => ⟨hr.node, hr.around.record hregisters src _ _, hr.below, hr.inside⟩
    · rw [hopened]
      exact hregisters.record src hq.below (hq.visit _)

theorem Progress.iterate (src : Bytes) (root : Node) (rounds : Nat) :
    ∃ done todo, Progress root done todo ((Building.round src)^[rounds] (Building.start src root)) := by
  induction rounds with
  | zero => exact ⟨_, _, .start src root⟩
  | succ rounds ih =>
    obtain ⟨done, todo, h⟩ := ih
    rw [Function.iterate_succ_apply']
    exact h.round src

/-- When the table is built, nothing waits any more and all named nodes are visited. -/
theorem progress_ofTree (src : Bytes) (root : Node) :
    Progress root (root.spots Node.named) [] ⟨[], programVisit root :: visitsBelow root, ofTree src root⟩ := by
  obtain ⟨done, todo, h⟩ := Progress.iterate src root (visitsBelow root).length
  rw [Building.iterate_round_start] at h
  obtain rfl := List.forall₂_nil_right_iff.1 h.stack
  have hdone : done = root.spots Node.named := by simpa using h.listed
  exact hdone ▸ h

end Rounds

/-- Both traversals go through every tree in document order. The walk over all nodes ends after as many rounds as there are
nodes, and gives the recursive listing. Building a table of scopes takes one round for each node that is reached through named
children only. It visits each of them once, with the nearest scope around it, and the scopes are registered in document order,
each after its parent. -/
theorem traversals_inDocumentOrder (src : Bytes) (root : Node) :
    (∀ enter, InDocumentOrder (root.at? enter) (root.spots enter)) ∧
    (Site.walkRound^[root.size] ([⟨root, []⟩], []) = ([], root.sites) ∧ root.sites = root.preorder [] ∧
      root.sites.map Site.node = (root.spots fun _ => true).map Spot.node) ∧
    (Building.round src)^[(visitsBelow root).length] (Building.start src root) =
      ⟨[], programVisit root :: visitsBelow root, ofTree src root⟩ ∧
    List.Forall₂ (VisitedAt root root.scopeSpots (ofTree src root)) (root.spots Node.named)
      (programVisit root :: visitsBelow root) ∧
    Registers root root.scopeSpots (ofTree src root) := by
  have hnodes : root.sites.map Site.node = (root.spots fun _ => true).map Spot.node := by
    rw [Node.sites_eq_preorder, Node.spots, Node.map_node_spotsAt, Node.nodes]
  have hprogress := progress_ofTree src root
  exact ⟨fun enter => root.inDocumentOrder_spots enter, ⟨root.iterate_walkRound, root.sites_eq_preorder, hnodes⟩,
    Building.iterate_round_start src root, hprogress.visited, hprogress.registers⟩

end ScopeTable
end CallRedirect
