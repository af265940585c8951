import CallRedirect.Proofs.Redirection
import CallRedirect.Proofs.RegrownNames

/-! # Texts in a regrown tree

Where a part of the file is printed with other callees in it, every node of the part that is not a callee itself still
has a text of its own, from where its start went to where its stop went. A node without calls in it keeps its text.

* `Node.Grammatical`: what a parser promises about a file, as far as a second run relies on it.
* `Node.Fits`: the node cuts no callee that is replaced.
* `Document.Carries`: a part of the file is printed at an offset of a text.
* `Document.Carries.text_regrown`: a node without parts keeps its text. -/

namespace CallRedirect
set_option autoImplicit false

/-! ## Moved offsets -/

/-- No span starts before the offset and stops after it. -/
def Patch.Clear (ps : List Patch) (i : Nat) : Prop := ∀ p ∈ ps, i ≤ p.start ∨ p.stop ≤ i

namespace Bytes
variable {src : Bytes} {ps : List Patch}

theorem length_patched_le (src : Bytes) (ps : List Patch) (a : Nat) {q r : Nat} (h : q ≤ r) :
    (src.patched ps a q).length ≤ (src.patched ps a r).length := by
  rcases Nat.le_total a q with haq | hqa
  · rw [← src.patched_append ps haq h, List.length_append]
    exact Nat.le_add_right _ _
  · rw [patched, Nat.sub_eq_zero_of_le hqa]
    exact Nat.zero_le _

/-- Where no span is cut, something is printed for each byte. -/
theorem patchedAt_ne_nil {i : Nat} (htexts : ∀ p ∈ ps, p.text ≠ []) (hclear : Patch.Clear ps i)
    (hi : i < src.length) : src.patchedAt ps i ≠ [] := by
  rw [patchedAt]
  cases hfirst : ps.find? fun p => p.start == i with
  | some p => simpa using fun htext => absurd htext (htexts p (List.mem_of_find?_eq_some hfirst))
  | none =>
    have hcovered : (ps.any fun p => p.covers i) = false := by
      rw [List.any_eq_false]
      intro p hp
      have hne : p.start ≠ i := by simpa using List.find?_eq_none.1 hfirst p hp
      have := hclear p hp
      simp only [Patch.covers, Bool.and_eq_true, decide_eq_true_eq]
      omega
    simp [hcovered, List.getElem?_eq_getElem hi]

theorem length_patched_lt {a q r : Nat} (htexts : ∀ p ∈ ps, p.text ≠ []) (hclear : Patch.Clear ps q) (haq : a ≤ q)
    (hqr : q < r) (hq : q < src.length) : (src.patched ps a q).length < (src.patched ps a r).length := by
  have hhead : src.patched ps q (q + 1) = src.patchedAt ps q := by simp [patched]
  have hpos := List.length_pos_iff.2 (patchedAt_ne_nil htexts hclear hq)
  rw [← src.patched_append ps haq (Nat.le_of_lt hqr), ← src.patched_append ps (Nat.le_succ q) hqr, hhead]
  simp only [List.length_append]
  omega

theorem slice_slice (b : Bytes) {start stop p q : Nat} (h : start + q ≤ stop) :
    (b.slice start stop).slice p q = b.slice (start + p) (start + q) := by
  rw [slice, slice, slice, List.take_drop, List.take_take, List.drop_drop, Nat.min_eq_left h]

/-- What is printed for a range is found where its ends went. -/
theorem slice_patched {out : Bytes} {a b start p q : Nat}
    (h : out.slice start (start + (src.patched ps a b).length) = src.patched ps a b) (hap : a ≤ p) (hpq : p ≤ q)
    (hqb : q ≤ b) :
    out.slice (start + (src.patched ps a p).length) (start + (src.patched ps a q).length) = src.patched ps p q := by
  have hle := length_patched_le src ps a hqb
  rw [← slice_slice out (Nat.add_le_add_left hle start), h, ← src.patched_append ps (Nat.le_trans hap hpq) hqb,
    ← src.patched_append ps hap hpq, slice, List.length_append, List.append_assoc]
  simp [List.take_append]

end Bytes

/-! ## The promise of the parser -/

/-- The tree of a file, as its parser hands it over: spans are in order, a scope or a call of the target is not empty,
words and keywords have no parts, and no import holds a call. -/
structure Node.Grammatical (code : String) (t : Target) (root : Node) : Prop where
  wellFormed : root.WellFormed code
  table : ScopeTable.Scoped root
  scopes : ∀ n ∈ root.nodes, n.opensScope = true → n.start < n.stop
  words : ∀ n ∈ root.nodes, n.isWord = true → n.children = []
  keywords : ∀ n ∈ root.nodes, n.field = some "kind" → n.children = []
  proper : ∀ c ∈ CallSite.all (Bytes.ofString code) t root, c.Proper
  callees : ∀ c ∈ CallSite.all (Bytes.ofString code) t root, ∀ n ∈ c.callee.children, n.children = []
  imports : ∀ n ∈ root.children, n.kind = "import_statement" → ∀ m ∈ n.nodes, m.kind ≠ "call_expression"

instance (code : String) (t : Target) (root : Node) : Decidable (root.Grammatical code t) :=
  decidable_of_iff
    (root.WellFormed code ∧ ScopeTable.Scoped root ∧ (∀ n ∈ root.nodes, n.opensScope = true → n.start < n.stop) ∧
      (∀ n ∈ root.nodes, n.isWord = true → n.children = []) ∧
      (∀ n ∈ root.nodes, n.field = some "kind" → n.children = []) ∧
      (∀ c ∈ CallSite.all (Bytes.ofString code) t root, c.Proper) ∧
      (∀ c ∈ CallSite.all (Bytes.ofString code) t root, ∀ n ∈ c.callee.children, n.children = []) ∧
      (∀ n ∈ root.children, n.kind = "import_statement" → ∀ m ∈ n.nodes, m.kind ≠ "call_expression"))
    ⟨fun ⟨h1, h2, h3, h4, h5, h6, h7, h8⟩ => ⟨h1, h2, h3, h4, h5, h6, h7, h8⟩, fun h =>
      ⟨h.wellFormed, h.table, h.scopes, h.words, h.keywords, h.proper, h.callees, h.imports⟩⟩

/-! ## Redirected calls -/

theorem Node.Nested.of_mem {n m : Node} (h : n.Nested) (hm : m ∈ n.nodes) : m.Nested :=
  fun k hk => h k (mem_nodes_trans hm hk)

theorem Node.exists_site {n m : Node} (hm : m ∈ n.nodes) (outer : List Node) : ∃ s ∈ n.preorder outer, s.node = m := by
  rw [nodes, map_node_preorder [] outer] at hm
  exact List.mem_map.1 hm

/-- Whether a node is a call of the target does not depend on where it stands. -/
theorem CallSite.IsCallOf.elsewhere {src : Bytes} {t : Target} {c : CallSite} (h : c.IsCallOf src t) (outer : List Node) :
    IsCallOf src t ⟨⟨c.call.node, outer⟩, c.callee, c.object⟩ :=
  ⟨h.call, h.unchained, h.callee, h.access, h.unchainedAccess, h.object, h.objectName, h.property⟩

namespace Document
variable {d : Document} {t : Target} {n k : Node}

theorem mem_ambientCalls {c : CallSite} :
    c ∈ Session.ambientCalls d t ↔ c ∈ CallSite.all d.source t d.root ∧
      (ScopeTable.ofTree d.source d.root).resolve c.objectSite t.object = none := by
  rw [Session.ambientCalls, List.mem_filter, CallSite.binding?, Option.isNone_iff_eq_none]

/-- Which calls are ambient depends on the file only. -/
theorem ambientCalls_eq (d : Document) (t : Target) :
    Session.ambientCalls d t = Session.ambientCalls (.ofItems d.source d.root) t := by
  rw [Session.ambientCalls, Session.ambientCalls, source_ofItems, root_ofItems]

theorem redirects_of_mem {c : CallSite} (hc : c ∈ Session.ambientCalls d t) : d.redirects t c.call.node = true := by
  obtain ⟨-, hshape⟩ := CallSite.mem_all_iff.1 (mem_ambientCalls.1 hc).1
  have hmatch : CallSite.match? d.source t ⟨c.call.node, []⟩ = some ⟨⟨c.call.node, []⟩, c.callee, c.object⟩ :=
    CallSite.match?_eq_some_iff.2 ⟨rfl, hshape.elsewhere []⟩
  rw [redirects, hmatch, Option.isSome_some, Bool.true_and, List.any_eq_true]
  exact ⟨c, hc, beq_self_eq_true _⟩

/-- A node that is redirected has the shape of a call of the target. -/
theorem isCallOf_of_redirects (h : d.redirects t n = true) :
    ∃ callee object, ∀ outer, CallSite.IsCallOf d.source t ⟨⟨n, outer⟩, callee, object⟩ := by
  rw [redirects, Bool.and_eq_true] at h
  obtain ⟨⟨s, callee, object⟩, hmatch⟩ := Option.isSome_iff_exists.1 h.1
  obtain ⟨rfl, hshape⟩ := CallSite.match?_eq_some_iff.1 hmatch
  exact ⟨callee, object, hshape.elsewhere⟩

theorem kind_of_redirects (n : Node) (h : d.redirects t n = true) : n.kind = "call_expression" := by
  obtain ⟨callee, object, hshape⟩ := isCallOf_of_redirects h
  exact (hshape []).call

theorem kind_of_swappedCallee (n k : Node) (h : Node.IsSwappedCallee (d.redirects t) n k) :
    k.kind = "member_expression" := by
  obtain ⟨callee, object, hshape⟩ := isCallOf_of_redirects h.1
  have hkey := h.2
  rw [(hshape []).callee, Option.map_some, Option.some.injEq] at hkey
  exact (congrArg Node.Key.kind hkey).symm.trans (hshape []).access

end Document

/-! ## Nodes that cut no callee -/

/-- Each call stands in the node, or its callee stands apart from it. -/
def Node.Fits (cs : List CallSite) (n : Node) : Prop :=
  ∀ c ∈ cs, c.callee.stop ≤ n.start ∨ n.stop ≤ c.call.node.start ∨ c.call.node ∈ n.nodes

namespace Document
variable {d : Document} {code : String} {t : Target} {n k : Node}

section Fits
variable (h : d.root.Grammatical code t)
include h

/-- Each part of the file fits. -/
theorem fits_top (hn : n ∈ d.root.children) : n.Fits (Session.ambientCalls d t) := by
  intro c hc
  have hall := (mem_ambientCalls.1 hc).1
  obtain ⟨m, hm, -, hbelow⟩ := CallSite.exists_child h.wellFormed hall
  have horder := h.wellFormed.nested d.root d.root.self_mem_nodes
  have hbelow := Node.node_mem_nodes hbelow
  have hcall := h.wellFormed.nested.span_in_child hm hbelow
  have hcallee := CallSite.callee_span h.wellFormed.nested hall
  rcases horder.eq_or_apart hm hn with rfl | hleft | hright
  · exact .inr (.inr hbelow)
  · exact .inl (by omega)
  · exact .inr (.inl (by omega))

/-- A node that fits neither starts nor stops in a callee that is replaced. -/
theorem clear_of_fits (hn : n ∈ d.root.nodes) (hspan : n.start ≤ n.stop) (hfits : n.Fits (Session.ambientCalls d t)) :
    Patch.Clear (d.patches t) n.start ∧ Patch.Clear (d.patches t) n.stop := by
  have hboth : ∀ p ∈ d.patches t, (n.start ≤ p.start ∨ p.stop ≤ n.start) ∧ (n.stop ≤ p.start ∨ p.stop ≤ n.stop) := by
    intro p hp
    obtain ⟨c, hc, rfl⟩ := List.mem_map.1 hp
    have hcallee := CallSite.callee_span h.wellFormed.nested (mem_ambientCalls.1 hc).1
    show (_ ≤ c.call.node.start ∨ c.callee.stop ≤ _) ∧ (_ ≤ c.call.node.start ∨ c.callee.stop ≤ _)
    rcases hfits c hc with hbehind | hbefore | hinside
    · omega
    · omega
    · have hcall := (h.wellFormed.nested.of_mem hn).span hspan hinside
      omega
  exact ⟨fun p hp => (hboth p hp).1, fun p hp => (hboth p hp).2⟩

variable (hsource : d.source = Bytes.ofString code)
include hsource

theorem proper_of_mem {c : CallSite} (hc : c ∈ CallSite.all d.source t d.root) : c.Proper :=
  h.proper c (hsource ▸ hc)

/-- The callee of a swapped call is that of a call of the target. -/
theorem exists_call_of_swappedCallee (hn : n ∈ d.root.nodes) (hk : k ∈ n.children)
    (hcallee : Node.IsSwappedCallee (d.redirects t) n k) :
    ∃ c ∈ CallSite.all d.source t d.root, c.call.node = n ∧ c.callee = k := by
  obtain ⟨callee, object, hshape⟩ := isCallOf_of_redirects hcallee.1
  obtain ⟨s, hs, rfl⟩ := Node.exists_site hn []
  have hc : (⟨s, callee, object⟩ : CallSite) ∈ CallSite.all d.source t d.root :=
    CallSite.mem_all_iff.2 ⟨hs, hshape s.ancestors⟩
  refine ⟨_, hc, rfl, ?_⟩
  have hkey := hcallee.2
  rw [(hshape []).callee, Option.map_some, Option.some.injEq] at hkey
  have hstart : callee.start = k.start := congrArg Node.Key.start hkey
  have hstop : callee.stop = k.stop := congrArg Node.Key.stop hkey
  have hnonempty : callee.start < callee.stop := (proper_of_mem h hsource hc).nonempty
  have hmem : callee ∈ s.node.children := CallSite.callee_mem_children (hshape [])
  rcases (h.wellFormed.nested s.node hn).eq_or_apart hmem hk with heq | hbefore | hbehind
  · exact heq
  · omega
  · omega

theorem fits_child (hn : n ∈ d.root.nodes) (hfits : n.Fits (Session.ambientCalls d t)) (hk : k ∈ n.children)
    (hcallee : ¬ Node.IsSwappedCallee (d.redirects t) n k) : k.Fits (Session.ambientCalls d t) := by
  intro c hc
  have hall := (mem_ambientCalls.1 hc).1
  have hshape := (CallSite.mem_all_iff.1 hall).2
  have horder := h.wellFormed.nested n hn
  have hspan := horder.inside k hk
  rcases hfits c hc with hbehind | hbefore | hinside
  · exact .inl (by omega)
  · exact .inr (.inl (by omega))
  · rcases Node.mem_nodes_iff.1 hinside with rfl | ⟨m, hm, hbelow⟩
    · -- the call is the node itself, and this part of it is not the callee
      have hswapped : Node.IsSwappedCallee (d.redirects t) c.call.node c.callee :=
        ⟨redirects_of_mem hc, by rw [hshape.callee, Option.map_some]⟩
      have hstart := (proper_of_mem h hsource hall).start
      rcases horder.eq_or_apart hk (CallSite.callee_mem_children hshape) with rfl | hleft | hright
      · exact absurd hswapped hcallee
      · exact .inr (.inl (by omega))
      · exact .inl hright
    · have hspan' := horder.inside m hm
      have hcall := (h.wellFormed.nested.of_mem hn).span_in_child hm hbelow
      have hcalleeSpan := CallSite.callee_span h.wellFormed.nested hall
      rcases horder.eq_or_apart hm hk with rfl | hleft | hright
      · exact .inr (.inr hbelow)
      · exact .inl (by omega)
      · exact .inr (.inl (by omega))

theorem fits_of_grown {move : Nat → Nat} {outer outer' : List Node} {s s' : Site}
    (hs : Node.Grown move (d.redirects t) outer outer' n s s') (hn : n ∈ d.root.nodes)
    (hfits : n.Fits (Session.ambientCalls d t)) :
    s.node ∈ d.root.nodes ∧ s.node.Fits (Session.ambientCalls d t) := by
  induction hs with
  | self => exact ⟨hn, hfits⟩
  | part hc hcallee _ ih =>
    exact ih (Node.mem_nodes_trans hn (Node.child_mem_nodes hc)) (fits_child h hsource hn hfits hc hcallee)

/-- No callee reaches into a node without parts. -/
theorem patched_leaf (hfits : n.Fits (Session.ambientCalls d t)) (hleaf : n.children = []) :
    d.source.patched (d.patches t) n.start n.stop = d.source.slice n.start n.stop := by
  apply Bytes.patched_of_apart
  intro p hp
  obtain ⟨c, hc, rfl⟩ := List.mem_map.1 hp
  have hall := (mem_ambientCalls.1 hc).1
  have hproper := proper_of_mem h hsource hall
  refine ⟨show c.call.node.start < c.callee.stop from hproper.start ▸ hproper.nonempty, ?_⟩
  rcases hfits c hc with hbehind | hbefore | hinside
  · exact .inl hbehind
  · exact .inr hbefore
  · have hcallee := CallSite.callee_mem_children (CallSite.mem_all_iff.1 hall).2
    rw [Node.mem_nodes_iff, hleaf] at hinside
    rcases hinside with heq | ⟨m, hm, -⟩
    · rw [heq, hleaf] at hcallee
      cases hcallee
    · cases hm

end Fits

/-! ## Printed parts of the file -/

theorem moved_le (d : Document) (t : Target) (n : Node) (start : Nat) {p q : Nat} (h : p ≤ q) :
    d.moved t n start p ≤ d.moved t n start q :=
  Nat.add_le_add_left (Bytes.length_patched_le d.source (d.patches t) n.start h) start

theorem moved_lt {start p q : Nat} (hcallee : t.callee ≠ "") (hclear : Patch.Clear (d.patches t) p) (hp : n.start ≤ p)
    (hpq : p < q) (hlength : p < d.source.length) : d.moved t n start p < d.moved t n start q := by
  refine Nat.add_lt_add_left (Bytes.length_patched_lt ?_ hclear hp hpq hlength) start
  intro p hp htext
  obtain ⟨c, -, rfl⟩ := List.mem_map.1 hp
  have hdecode := Bytes.text?_ofString t.callee
  rw [show Bytes.ofString t.callee = Bytes.ofString "" from htext, Bytes.text?_ofString] at hdecode
  exact hcallee (Option.some.inj hdecode).symm

/-- A part of the file stands at an offset of a text, with the new callees in it. -/
def Carries (d : Document) (t : Target) (n : Node) (start : Nat) (out : Bytes) : Prop :=
  out.slice start (d.moved t n start n.stop) = d.source.patched (d.patches t) n.start n.stop

/-- A node without parts keeps its text. -/
theorem Carries.text_regrown {start : Nat} {out : Bytes} {m : Node} (hcarries : d.Carries t n start out)
    (h : d.root.Grammatical code t) (hsource : d.source = Bytes.ofString code) (hn : n ∈ d.root.children)
    (hm : m ∈ n.nodes) (hfits : m.Fits (Session.ambientCalls d t)) (hleaf : m.children = []) :
    (m.regrown (d.moved t n start) (d.redirects t)).text out = m.text d.source := by
  have hspan := h.wellFormed.nested.span_in_child hn hm
  rw [Node.text, Node.start_regrown, Node.stop_regrown, moved, moved,
    Bytes.slice_patched hcarries hspan.1 hspan.2.1 hspan.2.2, patched_leaf h hsource hfits hleaf, Node.text]

end Document

end CallRedirect
