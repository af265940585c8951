import CallRedirect.Document.Attachment
import CallRedirect.Proofs.Encoding
import CallRedirect.Proofs.Preorder
import Mathlib.Data.List.Pairwise

/-! # Well formed trees

What a parser promises about the tree of a text that fits the grammar, as far as later modules rely on it: spans nest,
start and stop between characters, and stand in the order of the text.

* `Node.InOrder`: several spans one after the other.
* `Node.WellFormed`: the promise about a whole tree.
* `Node.preorder_pairwise`: of two nodes in document order, the later one stands behind the earlier one or below it.
* `Node.top_of_mem_preorder`: the part of the file that a site belongs to. -/

namespace CallRedirect
set_option autoImplicit false

namespace Node

/-- The node is a comment, or the first line of a script. -/
def isComment (n : Node) : Bool := (⟨n, 0⟩ : Document.Item).isComment

/-- Spans that run forward one after the other between two offsets. -/
structure InOrder (lo hi : Nat) (ns : List Node) : Prop where
  inside : ∀ n ∈ ns, lo ≤ n.start ∧ n.start ≤ n.stop ∧ n.stop ≤ hi
  apart : ns.Pairwise fun a b => a.stop ≤ b.start

instance (lo hi : Nat) (ns : List Node) : Decidable (InOrder lo hi ns) :=
  decidable_of_iff
    ((∀ n ∈ ns, lo ≤ n.start ∧ n.start ≤ n.stop ∧ n.stop ≤ hi) ∧ ns.Pairwise fun a b => a.stop ≤ b.start)
    ⟨fun h => ⟨h.1, h.2⟩, fun h => ⟨h.inside, h.apart⟩⟩

/-- The children of every node of the tree stand inside it, one after the other. -/
def Nested (root : Node) : Prop := ∀ n ∈ root.nodes, InOrder n.start n.stop n.children

instance (root : Node) : Decidable root.Nested := inferInstanceAs (Decidable (∀ n ∈ root.nodes, _))

/-- The tree of a text, as its parser hands it over. -/
structure WellFormed (code : String) (root : Node) : Prop where
  nested : root.Nested
  /-- No span cuts a character. -/
  boundaries : ∀ n ∈ root.nodes, Bytes.Boundary code n.start ∧ Bytes.Boundary code n.stop
  program : root.kind = "program"
  /-- Nothing below the root is a program. -/
  inner : ∀ c ∈ root.children, ∀ n ∈ c.nodes, n.kind ≠ "program"
  statements : ∀ c ∈ root.children, c.isComment = false → c.start < c.stop
  comments : ∀ n ∈ root.nodes, n.isComment = true → n.children = []

instance (code : String) (root : Node) : Decidable (root.WellFormed code) :=
  decidable_of_iff
    (root.Nested ∧ (∀ n ∈ root.nodes, Bytes.Boundary code n.start ∧ Bytes.Boundary code n.stop) ∧
      root.kind = "program" ∧ (∀ c ∈ root.children, ∀ n ∈ c.nodes, n.kind ≠ "program") ∧
      (∀ c ∈ root.children, c.isComment = false → c.start < c.stop) ∧
      (∀ n ∈ root.nodes, n.isComment = true → n.children = []))
    ⟨fun ⟨h1, h2, h3, h4, h5, h6⟩ => ⟨h1, h2, h3, h4, h5, h6⟩,
      fun h => ⟨h.nested, h.boundaries, h.program, h.inner, h.statements, h.comments⟩⟩

/-! ## Spans -/

theorem Nested.child {n c : Node} (h : n.Nested) (hc : c ∈ n.children) : c.Nested :=
  fun m hm => h m (mem_nodes_of_child hc hm)

theorem Nested.child_span {n c : Node} (h : n.Nested) (hc : c ∈ n.children) :
    n.start ≤ c.start ∧ c.start ≤ c.stop ∧ c.stop ≤ n.stop :=
  (h n n.self_mem_nodes).inside c hc

theorem Nested.span {n m : Node} (h : n.Nested) (hn : n.start ≤ n.stop) (hm : m ∈ n.nodes) :
    n.start ≤ m.start ∧ m.start ≤ m.stop ∧ m.stop ≤ n.stop := by
  induction n using induct with
  | step n ih =>
    rcases mem_nodes_iff.1 hm with rfl | ⟨c, hc, hmc⟩
    · exact ⟨Nat.le_refl _, hn, Nat.le_refl _⟩
    · have hspan := h.child_span hc
      have hbelow := ih c hc (h.child hc) hspan.2.1 hmc
      omega

theorem Nested.span_in_child {n c m : Node} (h : n.Nested) (hc : c ∈ n.children) (hm : m ∈ c.nodes) :
    c.start ≤ m.start ∧ m.start ≤ m.stop ∧ m.stop ≤ c.stop :=
  (h.child hc).span (h.child_span hc).2.1 hm

theorem InOrder.tail {lo hi : Nat} {n : Node} {ns : List Node} (h : InOrder lo hi (n :: ns)) :
    InOrder n.stop hi ns := by
  obtain ⟨hn, hns⟩ := List.pairwise_cons.1 h.apart
  refine ⟨?_, hns⟩
  intro m hm
  have hspan := h.inside m (List.mem_cons_of_mem n hm)
  exact ⟨hn m hm, hspan.2⟩

theorem InOrder.sublist {lo hi : Nat} {ns ms : List Node} (h : InOrder lo hi ns) (hsub : ms.Sublist ns) :
    InOrder lo hi ms :=
  ⟨fun n hn => h.inside n (hsub.subset hn), h.apart.sublist hsub⟩

theorem WellFormed.inOrder_children {code : String} {root : Node} (h : root.WellFormed code) :
    InOrder 0 (Bytes.ofString code).length root.children := by
  have hin := h.nested root root.self_mem_nodes
  have hstop := (h.boundaries root root.self_mem_nodes).2.le_length
  refine ⟨?_, hin.apart⟩
  intro n hn
  have hspan := hin.inside n hn
  exact ⟨Nat.zero_le _, hspan.2.1, Nat.le_trans hspan.2.2 hstop⟩

/-- Of two different children, one stands behind the other. -/
theorem InOrder.eq_or_apart {lo hi : Nat} {ns : List Node} (h : InOrder lo hi ns) {a b : Node} (ha : a ∈ ns)
    (hb : b ∈ ns) : a = b ∨ a.stop ≤ b.start ∨ b.stop ≤ a.start := by
  by_cases hab : a = b
  · exact .inl hab
  · have hsymm : Std.Symm fun a b : Node => a.stop ≤ b.start ∨ b.stop ≤ a.start := ⟨fun _ _ => Or.symm⟩
    have hpair : ns.Pairwise fun a b => a.stop ≤ b.start ∨ b.stop ≤ a.start := h.apart.imp Or.inl
    exact .inr (hpair.forall ha hb hab)

/-- Of two nodes of a tree, one is in the other, or they stand apart. -/
theorem Nested.mem_or_apart {n a b : Node} (h : n.Nested) (ha : a ∈ n.nodes) (hb : b ∈ n.nodes) :
    a ∈ b.nodes ∨ b ∈ a.nodes ∨ a.stop ≤ b.start ∨ b.stop ≤ a.start := by
  induction n using induct with
  | step n ih =>
    rcases mem_nodes_iff.1 ha with rfl | ⟨c, hc, hac⟩
    · exact .inr (.inl hb)
    · rcases mem_nodes_iff.1 hb with rfl | ⟨c', hc', hbc⟩
      · exact .inl ha
      · have hspan := h.span_in_child hc hac
        have hspan' := h.span_in_child hc' hbc
        rcases (h n n.self_mem_nodes).eq_or_apart hc hc' with rfl | hbefore | hbehind
        · exact ih c hc (h.child hc) hac hbc
        · exact .inr (.inr (.inl (by omega)))
        · exact .inr (.inr (.inr (by omega)))

/-! ## Document order -/

/-- One node stands behind another, or below one of its children. -/
def Follows (n m : Node) : Prop := n.stop ≤ m.start ∨ ∃ c ∈ n.children, m ∈ c.nodes

theorem preorder_pairwise {n : Node} (outer : List Node) (h : n.Nested) :
    (n.preorder outer).Pairwise fun s s' => s.node.Follows s'.node := by
  induction n using induct generalizing outer with
  | step n ih =>
    rw [preorder_eq, List.pairwise_cons]
    constructor
    · intro s hs
      obtain ⟨c, hc, hsc⟩ := List.mem_flatMap.1 hs
      exact .inr ⟨c, hc, node_mem_nodes hsc⟩
    · rw [List.pairwise_flatMap]
      constructor
      · intro c hc
        exact ih c hc (n :: outer) (h.child hc)
      · have hin := h n n.self_mem_nodes
        refine hin.apart.imp_of_mem ?_
        intro a b ha hb hab s hs s' hs'
        have hspan := (h.child ha).span (hin.inside a ha).2.1 (node_mem_nodes hs)
        have hspan' := (h.child hb).span (hin.inside b hb).2.1 (node_mem_nodes hs')
        left
        omega

/-! ## The part of the file around a site -/

theorem top_of_mem_preorder {n : Node} {outer : List Node} {s : Site}
    (hkinds : ∀ m ∈ n.nodes, m.kind ≠ "program") (hs : s ∈ n.preorder outer) : s.top = Site.top.climb n outer := by
  induction n using induct generalizing outer with
  | step n ih =>
    rw [preorder_eq, List.mem_cons, List.mem_flatMap] at hs
    rcases hs with rfl | ⟨c, hc, hsc⟩
    · rfl
    · rw [ih c hc (fun m hm => hkinds m (mem_nodes_of_child hc hm)) hsc, Site.top.climb]
      have hn := hkinds n n.self_mem_nodes
      rw [if_neg (by simpa using hn)]

theorem WellFormed.top_of_mem {code : String} {root c : Node} {s : Site} (h : root.WellFormed code)
    (hc : c ∈ root.children) (hs : s ∈ c.preorder [root]) : s.top = c := by
  rw [top_of_mem_preorder (h.inner c hc) hs, Site.top.climb]
  simp [h.program]

end Node
end CallRedirect
