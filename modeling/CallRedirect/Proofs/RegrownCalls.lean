import CallRedirect.Proofs.RegrownScopes

/-! # Calls in a regrown tree

The calls of the target in a regrown tree are those that were left alone, as the callee of a redirected one is no member
access any more. They were left alone because their object is bound, and it still is. So nothing is left to redirect.

* `Document.match?_regrown`: a call that is not redirected is a call of the target before and after.
* `Document.Becomes`: what a site of the file has become.
* `Document.callsFunction_of_mem`: a call that was redirected calls the function.
* `Document.Regrows.staysBound`: a call of a bound object stays one.
* `Document.Regrows.ambientCalls_eq_nil`: no call is left whose object is ambient. -/

namespace CallRedirect
set_option autoImplicit false

theorem Node.child_mem_preorder {n c : Node} {outer : List Node} {s : Site} (hs : s ∈ n.preorder outer)
    (hc : c ∈ s.node.children) : s.child c ∈ n.preorder outer :=
  (preorder_sublist hs).subset (mem_preorder_of_child hc (c.self_mem_preorder _))

theorem CallSite.objectSite_mem {src : Bytes} {t : Target} {root : Node} {c : CallSite} (hc : c ∈ all src t root) :
    c.objectSite ∈ root.preorder [] := by
  obtain ⟨hsite, hshape⟩ := mem_all_iff.1 hc
  have hcallee := Node.child_mem_preorder hsite (callee_mem_children hshape)
  exact Node.child_mem_preorder hcallee (Node.mem_children_of_child? hshape.object)

namespace Document

/-! ## The shape of a call -/

theorem hasOptionalChain_regrown {move : Nat → Nat} {swapped : Node → Bool} {n : Node} (h : swapped n = false) :
    CallSite.hasOptionalChain (n.regrown move swapped) = CallSite.hasOptionalChain n := by
  rw [CallSite.hasOptionalChain, Node.children_regrown_of_false h, List.any_map, CallSite.hasOptionalChain]
  simp only [Function.comp_def, Node.kind_regrown]

section Shape
variable {d : Document} {code : String} {t : Target} {n m : Node} {start : Nat} {out : Bytes}
  (h : d.root.Grammatical code t) (hsource : d.source = Bytes.ofString code) (hcarries : d.Carries t n start out)
  (hn : n ∈ d.root.children)
include h hsource hcarries hn

theorem spells_regrown (kind text : String) (hm : m ∈ n.nodes) (hfits : m.Fits (Session.ambientCalls d t))
    (hword : m.kind = kind → m.isWord = true) :
    CallSite.spells out kind text (m.regrown (d.moved t n start) (d.redirects t)) =
      CallSite.spells d.source kind text m := by
  rw [CallSite.spells, Node.kind_regrown, CallSite.spells]
  by_cases hkind : m.kind = kind
  · have hleaf := h.words m (Node.mem_nodes_of_child hn hm) (hword hkind)
    rw [hcarries.text_regrown h hsource hn hm hfits hleaf]
  · rw [beq_eq_false_iff_ne.2 hkind, Bool.false_and, Bool.false_and]

theorem memberObject?_regrown (hm : m ∈ n.nodes) (hfits : m.Fits (Session.ambientCalls d t)) :
    CallSite.memberObject? out t (m.regrown (d.moved t n start) (d.redirects t)) =
      (CallSite.memberObject? d.source t m).map (Node.regrown (d.moved t n start) (d.redirects t)) := by
  by_cases hkind : m.kind = "member_expression"
  · have hunswapped : d.redirects t m = false :=
      Node.not_swapped (fun n => kind_of_redirects n) (by simp [hkind])
    have hpart {field : String} {c : Node} (hc : m.child? field = some c) :
        c ∈ n.nodes ∧ c.Fits (Session.ambientCalls d t) := by
      have hchild := Node.mem_children_of_child? hc
      refine ⟨Node.mem_nodes_trans hm (Node.child_mem_nodes hchild), ?_⟩
      exact fits_child h hsource (Node.mem_nodes_of_child hn hm) hfits hchild (Node.not_isSwappedCallee hunswapped c)
    rw [CallSite.memberObject?, CallSite.memberObject?, Node.kind_regrown, hasOptionalChain_regrown hunswapped,
      Node.child?_regrown_of_false hunswapped, Node.child?_regrown_of_false hunswapped]
    split
    · rfl
    · cases hobject : m.child? "object" with
      | none => rfl
      | some object =>
        cases hproperty : m.child? "property" with
        | none => rfl
        | some property =>
          have hnames := spells_regrown h hsource hcarries hn "identifier" t.object (hpart hobject).1 (hpart hobject).2
            fun hk => by simp [Node.isWord, hk]
          have hcalls := spells_regrown h hsource hcarries hn "property_identifier" t.severity (hpart hproperty).1
            (hpart hproperty).2 fun hk => by simp [Node.isWord, hk]
          simp only [Option.map_some, Option.bind_eq_bind, Option.bind_some, hnames, hcalls]
          split <;> rfl
  · simp [CallSite.memberObject?, hkind]

/-- A call that is not redirected is a call of the target exactly if it was one. -/
theorem match?_regrown {root' : Node} {s s' : Site}
    (hs : Node.Grown (d.moved t n start) (d.redirects t) [d.root] [root'] n s s')
    (hunswapped : d.redirects t s.node = false) :
    CallSite.match? out t s' = (CallSite.match? d.source t s).map fun c =>
      ⟨s', c.callee.regrown (d.moved t n start) (d.redirects t), c.object.regrown (d.moved t n start) (d.redirects t)⟩ := by
  obtain ⟨hmem, hfits⟩ := fits_of_grown h hsource hs (Node.child_mem_nodes hn) (fits_top h hn)
  rw [CallSite.match?, CallSite.match?, hs.node, Node.kind_regrown, hasOptionalChain_regrown hunswapped,
    Node.child?_regrown_of_false hunswapped]
  split
  · rfl
  · cases hcallee : s.node.child? "function" with
    | none => rfl
    | some callee =>
      have hchild := Node.mem_children_of_child? hcallee
      have hobject := memberObject?_regrown h hsource hcarries hn
        (Node.mem_nodes_trans (Node.node_mem_nodes hs.mem) (Node.child_mem_nodes hchild))
        (fits_child h hsource hmem hfits hchild (Node.not_isSwappedCallee hunswapped callee))
      simp only [Option.map_some, Option.bind_eq_bind, Option.bind_some, hobject]
      cases CallSite.memberObject? d.source t callee <;> rfl

end Shape

/-! ## Swapped callees -/

section Calls
variable {d : Document} {code : String} {t : Target} {n : Node} {start : Nat} {out : Bytes} {root' : Node}

theorem child?_swapped {move : Nat → Nat} {callee : Node} (hredirects : d.redirects t n = true)
    (hcallee : n.child? "function" = some callee) :
    (n.regrown move (d.redirects t)).child? "function" = some (callee.asIdentifier move) := by
  have hswapped : Node.IsSwappedCallee (d.redirects t) n callee := ⟨hredirects, by rw [hcallee, Option.map_some]⟩
  rw [Node.child?_regrown_eq, hcallee, Option.map_some, Node.regrownPart, if_pos hswapped]

/-- A call whose callee was replaced is no call of the target. -/
theorem match?_swapped {move : Nat → Nat} (hredirects : d.redirects t n = true) (outer : List Node) :
    CallSite.match? out t ⟨n.regrown move (d.redirects t), outer⟩ = none := by
  obtain ⟨callee, object, hshape⟩ := isCallOf_of_redirects hredirects
  rw [CallSite.match?]
  split
  · rfl
  · rw [child?_swapped hredirects (hshape []).callee]
    rfl

theorem declared?_program_eq_none (h : d.root.Grammatical code t) (hsome : Session.ambientCalls d t ≠ []) :
    d.root.declared? d.source d.root.key t.object = none := by
  obtain ⟨c, hc⟩ := List.exists_mem_of_ne_nil _ hsome
  obtain ⟨hc, hambient⟩ := mem_ambientCalls.1 hc
  rw [h.table.resolve_eq _ (CallSite.objectSite_mem hc), List.findSome?_eq_none_iff] at hambient
  exact hambient d.root (List.mem_append_right _ (List.mem_singleton_self _))

/-- A call of the target that is not ambient is not redirected. -/
theorem redirects_eq_false (h : d.root.Grammatical code t) (hsource : d.source = Bytes.ofString code) {c : CallSite}
    (hc : c ∈ CallSite.all d.source t d.root) (hbound : c ∉ Session.ambientCalls d t) :
    d.redirects t c.call.node = false := by
  by_contra hredirects
  rw [Bool.not_eq_false, redirects, Bool.and_eq_true, List.any_eq_true] at hredirects
  obtain ⟨a, ha, hkey⟩ := hredirects.2
  have hne : a ≠ c := fun heq => hbound (heq ▸ ha)
  have ha := (mem_ambientCalls.1 ha).1
  -- one of the two calls stands behind the callee of the other, so their spans differ
  have hproper := fun c hc => proper_of_mem (c := c) h hsource hc
  have hbefore := rel_or_rel_of_pairwise (CallSite.pairwise_before h.wellFormed.nested hproper) ha hc hne
  have hstart : a.call.node.start = c.call.node.start := congrArg Node.Key.start (beq_iff_eq.1 hkey)
  have hstop : a.call.node.stop = c.call.node.stop := congrArg Node.Key.stop (beq_iff_eq.1 hkey)
  have hspan := CallSite.callee_span h.wellFormed.nested ha
  have hspan' := CallSite.callee_span h.wellFormed.nested hc
  have := hproper a ha
  have := hproper c hc
  grind [CallSite.Before, CallSite.Proper]

/-- No call of the target stands in a callee, so each of them is regrown. -/
theorem exists_grown_call {move : Nat → Nat} {c : CallSite} (h : d.root.Grammatical code t)
    (hsource : d.source = Bytes.ofString code) (hc : c ∈ CallSite.all d.source t d.root) (hn : n ∈ d.root.children)
    (hsite : c.call ∈ n.preorder [d.root]) (root' : Node) :
    ∃ s', Node.Grown move (d.redirects t) [d.root] [root'] n c.call s' := by
  rcases Node.exists_grown_of_mem hsite [root'] with hgrown | ⟨k, hk, callee, hcallee, hswapped, hin⟩
  · exact hgrown
  · obtain ⟨a, ha, -, rfl⟩ := exists_call_of_swappedCallee h hsource (Node.mem_nodes_of_child hn hk) hcallee hswapped
    exact absurd (CallSite.mem_all_iff.1 hc).2.call ((proper_of_mem h hsource ha).simple _ hin)

/-- The object of a call that is not redirected is regrown with the call. -/
theorem grown_objectSite {move : Nat → Nat} {c : CallSite} {s' : Site} {outer outer' : List Node}
    (hs : Node.Grown move (d.redirects t) outer outer' n c.call s') (hshape : c.IsCallOf d.source t)
    (hunswapped : d.redirects t c.call.node = false) :
    Node.Grown move (d.redirects t) outer outer' n c.objectSite
      (CallSite.objectSite ⟨s', c.callee.regrown move (d.redirects t), c.object.regrown move (d.redirects t)⟩) := by
  have haccess : d.redirects t c.callee = false :=
    Node.not_swapped (fun n => kind_of_redirects n) (by simp [hshape.access])
  have hcallee := hs.child (CallSite.callee_mem_children hshape) (Node.not_isSwappedCallee hunswapped _)
  exact hcallee.child (Node.mem_children_of_child? hshape.object) (Node.not_isSwappedCallee haccess _)

/-! ## Calls that were redirected -/

/-- What a site of the file has become in the tree: the part of the file it stands in was regrown, and the site with it. -/
def Becomes (d : Document) (t : Target) (root' : Node) (s s' : Site) : Prop :=
  ∃ n ∈ d.root.children, ∃ move, n.regrown move (d.redirects t) ∈ root'.children ∧
    Node.Grown move (d.redirects t) [d.root] [root'] n s s'

/-- The call has become one with an identifier for its callee, and that is the function. -/
def CallsFunction (d : Document) (t : Target) (out : Bytes) (root' : Node) (c : CallSite) : Prop :=
  ∃ s' ∈ root'.preorder [], d.Becomes t root' c.call s' ∧
    ∃ callee, s'.node.child? "function" = some callee ∧ callee.kind = "identifier" ∧ callee.children = [] ∧
      callee.text out = t.callee

section Redirected
variable (h : d.root.Grammatical code t) (hsource : d.source = Bytes.ofString code)
include h hsource

/-- Two calls that are redirected stand apart, or one stands in the arguments of the other. -/
theorem eq_or_apart_of_mem {a c : CallSite} (ha : a ∈ Session.ambientCalls d t) (hc : c ∈ Session.ambientCalls d t) :
    a = c ∨ a.call.node.start < c.call.node.start ∨ c.callee.stop ≤ a.call.node.start := by
  by_cases heq : a = c
  · exact .inl heq
  · have hpairwise := Session.pairwise_callee_ambientCalls h.wellFormed fun c hc => proper_of_mem h hsource hc
    rw [← ambientCalls_eq] at hpairwise
    have hapart := rel_or_rel_of_pairwise hpairwise ha hc heq
    omega

/-- The callee of a redirected call becomes the function. -/
theorem patched_callee {c : CallSite} (hc : c ∈ Session.ambientCalls d t) :
    d.source.patched (d.patches t) c.callee.start c.callee.stop = Bytes.ofString t.callee := by
  have hproper := proper_of_mem h hsource (mem_ambientCalls.1 hc).1
  have hmem : CallSite.patch t c ∈ d.patches t := List.mem_map_of_mem hc
  have hspan : c.call.node.start < c.callee.stop := hproper.start ▸ hproper.nonempty
  have hfirst : ((d.patches t).find? fun q => q.start == c.call.node.start) = some (CallSite.patch t c) := by
    cases hfind : (d.patches t).find? fun q => q.start == c.call.node.start with
    | none =>
      have hne := List.find?_eq_none.1 hfind _ hmem
      exact absurd (beq_self_eq_true c.call.node.start) hne
    | some q =>
      have hstart := List.find?_some hfind
      obtain ⟨a, ha, rfl⟩ := List.mem_map.1 (List.mem_of_find?_eq_some hfind)
      have hstart : a.call.node.start = c.call.node.start := beq_iff_eq.1 hstart
      rcases eq_or_apart_of_mem h hsource ha hc with rfl | hbefore | hbehind
      · rfl
      · omega
      · omega
  rw [hproper.start]
  refine Bytes.patched_span (p := CallSite.patch t c) hfirst hspan fun q hq => ?_
  obtain ⟨a, ha, rfl⟩ := List.mem_map.1 hq
  show a.call.node.start ≤ c.call.node.start ∨ c.callee.stop ≤ a.call.node.start
  rcases eq_or_apart_of_mem h hsource ha hc with rfl | hbefore | hbehind
  · exact .inl (Nat.le_refl _)
  · exact .inl (Nat.le_of_lt hbefore)
  · exact .inr hbehind

/-- A redirected call of a printed part calls the function. -/
theorem callsFunction_of_mem {c : CallSite} (hc : c ∈ Session.ambientCalls d t) (hn : n ∈ d.root.children)
    (hcarries : d.Carries t n start out) (hpart : n.regrown (d.moved t n start) (d.redirects t) ∈ root'.children)
    (hsite : c.call ∈ n.preorder [d.root]) : d.CallsFunction t out root' c := by
  obtain ⟨hall, -⟩ := mem_ambientCalls.1 hc
  have hshape := (CallSite.mem_all_iff.1 hall).2
  have hredirects := redirects_of_mem hc
  obtain ⟨s', hs⟩ := exists_grown_call h hsource hall hn hsite root'
  refine ⟨s', Node.mem_preorder_of_child hpart hs.mem_regrown, ⟨n, hn, _, hpart, hs⟩,
    c.callee.asIdentifier (d.moved t n start), ?_, rfl, rfl, ?_⟩
  · rw [hs.node]
    exact child?_swapped hredirects hshape.callee
  · have hmem := Node.mem_nodes_trans (Node.node_mem_nodes hsite) (Node.child_mem_nodes (CallSite.callee_mem_children hshape))
    have hspan := h.wellFormed.nested.span_in_child hn hmem
    show (out.slice (d.moved t n start c.callee.start) (d.moved t n start c.callee.stop)).text = t.callee
    rw [moved, moved, Bytes.slice_patched hcarries hspan.1 hspan.2.1 hspan.2.2, patched_callee h hsource hc, Bytes.text,
      Bytes.text?_ofString, Option.getD_some]

end Redirected

/-! ## Calls that were left alone -/

/-- The call has become a call of the target again, and its object is bound there. -/
def StaysBound (d : Document) (t : Target) (out : Bytes) (root' : Node) (c : CallSite) : Prop :=
  ∃ c' ∈ CallSite.all out t root', d.Becomes t root' c.call c'.call ∧
    (ScopeTable.ofTree out root').resolve c'.objectSite t.object ≠ none

section Regrows
variable (hregrows : d.Regrows t out root') (h : d.root.Grammatical code t) (hsource : d.source = Bytes.ofString code)
  (hcallee : t.callee ≠ "") (hprogram : d.root.declared? d.source d.root.key t.object = none)
include hregrows h hsource hcallee hprogram

theorem Regrows.resolve_objectSite {c : CallSite} {s' : Site} (hn : n ∈ d.root.children)
    (hcarries : d.Carries t n start out) (hpart : n.regrown (d.moved t n start) (d.redirects t) ∈ root'.children)
    (hc : c ∈ CallSite.all d.source t d.root) (hunswapped : d.redirects t c.call.node = false)
    (hs : Node.Grown (d.moved t n start) (d.redirects t) [d.root] [root'] n c.call s') :
    (ScopeTable.ofTree out root').resolve
      (CallSite.objectSite ⟨s', c.callee.regrown (d.moved t n start) (d.redirects t),
        c.object.regrown (d.moved t n start) (d.redirects t)⟩) t.object ≠ none := by
  have hgrown := grown_objectSite hs (CallSite.mem_all_iff.1 hc).2 hunswapped
  refine hregrows.resolve_ne_none h hsource hcallee hn hcarries hpart hgrown hprogram fun hambient => ?_
  rw [redirects_of_mem (mem_ambientCalls.2 ⟨hc, hambient⟩)] at hunswapped
  cases hunswapped

theorem Regrows.staysBound {c : CallSite} (hn : n ∈ d.root.children) (hcarries : d.Carries t n start out)
    (hpart : n.regrown (d.moved t n start) (d.redirects t) ∈ root'.children) (hc : c ∈ CallSite.all d.source t d.root)
    (hsite : c.call ∈ n.preorder [d.root])
    (hbound : (ScopeTable.ofTree d.source d.root).resolve c.objectSite t.object ≠ none) :
    d.StaysBound t out root' c := by
  have hshape := (CallSite.mem_all_iff.1 hc).2
  have hunswapped := redirects_eq_false h hsource hc fun hambient => hbound (mem_ambientCalls.1 hambient).2
  obtain ⟨s', hs⟩ := exists_grown_call h hsource hc hn hsite root'
  have hmatch := match?_regrown h hsource hcarries hn hs hunswapped
  rw [CallSite.match?_eq_some_iff.2 ⟨rfl, hshape⟩, Option.map_some, CallSite.match?_eq_some_iff] at hmatch
  have hsite' : s' ∈ root'.preorder [] := Node.mem_preorder_of_child hpart hs.mem_regrown
  exact ⟨_, CallSite.mem_all_iff.2 ⟨hsite', hmatch.2⟩, ⟨n, hn, _, hpart, hs⟩,
    hregrows.resolve_objectSite h hsource hcallee hprogram hn hcarries hpart hc hunswapped hs⟩

/-- Every call of the target is one of a bound object. -/
theorem Regrows.resolve_of_mem {c' : CallSite} (hc' : c' ∈ CallSite.all out t root') :
    (ScopeTable.ofTree out root').resolve c'.objectSite t.object ≠ none := by
  obtain ⟨hsite, hshape⟩ := CallSite.mem_all_iff.1 hc'
  have hmatch := CallSite.match?_eq_some_iff.2 ⟨rfl, hshape⟩
  rw [Node.preorder_eq, List.mem_cons, List.mem_flatMap] at hsite
  rcases hsite with hself | ⟨c, hc, hbelow⟩
  · have hkind := hshape.call
    rw [hself, hregrows.program] at hkind
    exact absurd hkind (by decide)
  · rcases hregrows.parts c hc with hinert | ⟨n, hn, start, hcarries, rfl⟩
    · exact absurd hshape.call (hinert.plain _ (Node.node_mem_nodes hbelow)).2.1
    · rcases Node.exists_grown_of_mem_regrown hbelow [d.root] with ⟨s, hs⟩ | ⟨k, hk⟩
      · cases hredirects : d.redirects t s.node with
        | true =>
          obtain ⟨⟨node, ancestors⟩, callee, object⟩ := c'
          obtain rfl : node = s.node.regrown (d.moved t n start) (d.redirects t) := hs.node
          rw [match?_swapped hredirects] at hmatch
          cases hmatch
        | false =>
          rw [match?_regrown h hsource hcarries hn hs hredirects] at hmatch
          obtain ⟨b, hb, heq⟩ := Option.map_eq_some_iff.1 hmatch
          obtain ⟨rfl, hbshape⟩ := CallSite.match?_eq_some_iff.1 hb
          have hball : b ∈ CallSite.all d.source t d.root :=
            CallSite.mem_all_iff.2 ⟨Node.mem_preorder_of_child hn hs.mem, hbshape⟩
          rw [← heq]
          exact hregrows.resolve_objectSite h hsource hcallee hprogram hn hcarries hc hball hredirects hs
      · have hkind := hshape.call
        rw [hk] at hkind
        exact absurd hkind (by decide : "identifier" ≠ "call_expression")

theorem Regrows.ambientCalls_eq_nil : Session.ambientCalls (.ofItems out root') t = [] := by
  rw [List.eq_nil_iff_forall_not_mem]
  intro c hc
  obtain ⟨hc, hambient⟩ := mem_ambientCalls.1 hc
  rw [source_ofItems, root_ofItems] at hc hambient
  exact hregrows.resolve_of_mem h hsource hcallee hprogram hc hambient

end Regrows
end Calls
end Document
end CallRedirect
