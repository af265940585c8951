import CallRedirect.Proofs.Fitting
import Mathlib.Data.List.Flatten

/-! # Scopes in a regrown tree

A name that is bound at a site, and not by the program, is bound by a node around the site in the same part of the file.
That node, the declaration and the site all become nodes of the regrown tree, so the name is still bound there.

* `ScopeTable.scoped_of_nested`: in a tree with spans in order, scopes are told apart if none has the span of one in it.
* `Node.Grown.reached`: the scope of a declaration becomes the scope of what the declaration becomes.
* `Document.Regrows`: a tree whose parts are regrown parts of a file, or imports.
* `Document.Regrows.resolve_ne_none`: a bound name stays bound. -/

namespace CallRedirect
set_option autoImplicit false

/-! ## Scopes that are told apart -/

theorem Node.preorder_sublist {n : Node} {outer : List Node} {s : Site} (hs : s ∈ n.preorder outer) :
    (s.node.preorder s.ancestors).Sublist (n.preorder outer) := by
  induction n using induct generalizing outer with
  | step n ih =>
    rw [preorder_eq, List.mem_cons, List.mem_flatMap] at hs
    rcases hs with rfl | ⟨c, hc, hbelow⟩
    · exact List.Sublist.refl _
    · rw [n.preorder_eq outer]
      have hchild := (List.singleton_sublist.2 hc).flatMap (preorder (n :: outer))
      rw [List.flatMap_singleton] at hchild
      exact ((ih c hc hbelow).trans hchild).cons _

namespace ScopeTable
variable {root : Node}

/-- No named node in a scope has its kind and span. -/
theorem Scoped.key_ne (h : Scoped root) {s : Site} (hs : s ∈ root.namedBelow) (hopens : s.node.opensScope = true)
    {c m : Node} (hc : c ∈ s.node.children) (hm : m ∈ c.nodes) (hnamed : m.named = true) : m.key ≠ s.node.key := by
  intro hkey
  obtain ⟨⟨top, htop, hs⟩, hsnamed⟩ := mem_namedBelow_iff.1 hs
  obtain ⟨r, hr, rfl⟩ := Node.exists_site hm (s.node :: s.ancestors)
  have hpair : [s, r].Sublist (root.children.flatMap (Node.preorder [root])) := by
    have hparent := Node.preorder_sublist hs
    rw [Node.preorder_eq] at hparent
    have hbelow : [r].Sublist (s.node.children.flatMap (Node.preorder (s.node :: s.ancestors))) :=
      List.singleton_sublist.2 (List.mem_flatMap.2 ⟨c, hc, hr⟩)
    have hparts := (List.singleton_sublist.2 htop).flatMap (Node.preorder [root])
    rw [List.flatMap_singleton] at hparts
    exact ((hbelow.cons_cons s).trans hparent).trans hparts
  have hkeys := ((hpair.filter fun s => s.node.named).filter fun s => s.node.opensScope).map fun s => s.node.key
  have hropens : r.node.opensScope = true := Node.opensScope_congr hkey ▸ hopens
  have hnodup := h.distinct.sublist hkeys
  simp [hsnamed, hnamed, hopens, hropens, hkey] at hnodup

theorem scoped_of_nested (hprogram : root.kind = "program") (hinner : ∀ c ∈ root.children, ∀ n ∈ c.nodes, n.kind ≠ "program")
    (htokens : root.TokensAreLeaves) (hnested : root.Nested)
    (hscopes : ∀ s ∈ root.namedBelow, s.node.opensScope = true → s.node.start < s.node.stop ∧
      ∀ c ∈ s.node.children, ∀ m ∈ c.nodes, m.named = true → m.key ≠ s.node.key) : Scoped root := by
  refine ⟨hprogram, hinner, htokens, ?_⟩
  have hfollows := Node.preorder_pairwise [] hnested
  rw [Node.preorder_eq, List.pairwise_cons] at hfollows
  rw [List.Nodup, List.pairwise_map]
  refine (hfollows.2.sublist (List.filter_sublist.trans List.filter_sublist)).imp_of_mem ?_
  intro s r hs hr hfollow hkey
  obtain ⟨hs, hopens⟩ := List.mem_filter.1 hs
  obtain ⟨hspan, hbelow⟩ := hscopes s hs hopens
  rcases hfollow with hbehind | ⟨c, hc, hm⟩
  · have hstart : s.node.start = r.node.start := congrArg Node.Key.start hkey
    omega
  · exact hbelow c hc _ hm (mem_namedBelow_iff.1 (List.mem_filter.1 hr).1).2 hkey.symm

end ScopeTable

theorem Node.declared?_ne_none {src : Bytes} {root : Node} {s : Site} {decl : Declaration} {key : Key} {name : String}
    (hs : s ∈ root.namedBelow) (hdecl : decl ∈ s.node.declarations src) (hkey : (s.reached root decl.reach).key = key)
    (hname : decl.name.text src = name) : root.declared? src key name ≠ none := by
  rw [declared?, firstEntry, Ne, Option.map_eq_none_iff, List.find?_eq_none]
  intro hnone
  have hentry : ((s.reached root decl.reach).key, (⟨decl.name.text src, decl.kind, decl.name⟩ : Binding)) ∈
      root.entries src := List.mem_flatMap.2 ⟨s, hs, List.mem_map.2 ⟨decl, hdecl, rfl⟩⟩
  exact hnone _ hentry (by simp [hkey, hname])

/-! ## Scopes around a site -/

theorem Node.mem_of_mem_ancestors {n m : Node} {outer : List Node} {s : Site} (hs : s ∈ n.preorder outer)
    (hm : m ∈ s.node :: s.ancestors) : m ∈ n.nodes ∨ m ∈ outer := by
  induction n using induct generalizing outer with
  | step n ih =>
    rw [preorder_eq, List.mem_cons, List.mem_flatMap] at hs
    rcases hs with rfl | ⟨c, hc, hbelow⟩
    · exact (List.mem_cons.1 hm).imp_left fun (heq : m = n) => heq ▸ n.self_mem_nodes
    · rcases ih c hc hbelow with hmem | hmem
      · exact .inl (mem_nodes_of_child hc hmem)
      · exact (List.mem_cons.1 hmem).imp_left fun (heq : m = n) => heq ▸ n.self_mem_nodes

namespace Site

theorem reached_mem (root : Node) (s : Site) (reach : Reach) :
    s.reached root reach = root ∨ s.reached root reach ∈ s.node :: s.ancestors := by
  have hhead {ns : List Node} (hns : ∀ n ∈ ns, n ∈ s.node :: s.ancestors) :
      (ns ++ [root]).headD root = root ∨ (ns ++ [root]).headD root ∈ s.node :: s.ancestors := by
    cases ns with
    | nil => exact .inl rfl
    | cons n ns => exact .inr (hns n List.mem_cons_self)
  cases reach with
  | own => exact hhead fun n hn => (List.mem_filter.1 hn).1
  | around => exact hhead fun n hn => List.mem_cons_of_mem _ (List.mem_filter.1 hn).1
  | function =>
    rw [reached]
    cases hfound : (s.scopes root).find? Node.isFunctionScope with
    | none => exact .inl rfl
    | some n =>
      rw [Option.getD_some]
      rcases List.mem_append.1 (List.mem_of_find?_eq_some hfound) with hn | hn
      · exact .inr (List.mem_cons_of_mem _ (List.mem_filter.1 hn).1)
      · exact .inl (List.mem_singleton.1 hn)
  | program => exact .inl rfl

end Site

namespace Node

section Grown
variable {move : Nat → Nat} {swapped : Node → Bool} {root root' n : Node} {s s' : Site}

/-- The scopes around a site become those around what it becomes. -/
theorem Grown.scopes (h : Grown move swapped [root] [root'] n s s') (hroot : root.opensScope = false)
    (hroot' : root'.opensScope = false) :
    ∃ ns, (∀ m ∈ ns, m ∈ n.nodes ∧ m.opensScope = true) ∧ s.scopes root = ns ++ [root] ∧
      s'.scopes root' = ns.map (regrown move swapped) ++ [root'] := by
  obtain ⟨path, hpath, hs, hs'⟩ := h.ancestors
  refine ⟨path.filter opensScope, fun m hm => ?_, ?_, ?_⟩
  · exact ⟨hpath m (List.mem_filter.1 hm).1, (List.mem_filter.1 hm).2⟩
  · rw [Site.scopes, hs, List.filter_append]
    simp [hroot]
  · rw [Site.scopes, hs', List.filter_append, List.filter_map]
    simp [hroot', Function.comp_def, opensScope_regrown]

/-- The scope of a declaration becomes the scope of what the declaration becomes, unless it is the program. -/
theorem Grown.reached (h : Grown move swapped [root] [root'] n s s') (hroot : root.opensScope = false)
    (hroot' : root'.opensScope = false) (reach : Reach) :
    s.reached root reach = root ∨ s'.reached root' reach = (s.reached root reach).regrown move swapped := by
  obtain ⟨ns, -, hscopes, hscopes'⟩ := h.scopes hroot hroot'
  have hhead (ns : List Node) : (ns ++ [root]).headD root = root ∨
      (ns.map (regrown move swapped) ++ [root']).headD root' = ((ns ++ [root]).headD root).regrown move swapped := by
    cases ns with
    | nil => exact .inl rfl
    | cons n ns => exact .inr rfl
  cases reach with
  | own =>
    rw [Site.reached, Site.reached, Site.scopesWithin_eq, Site.scopesWithin_eq, h.node, opensScope_regrown, hscopes,
      hscopes']
    split
    · exact .inr rfl
    · exact hhead ns
  | around =>
    rw [Site.reached, Site.reached, hscopes, hscopes']
    exact hhead ns
  | function =>
    rw [Site.reached, Site.reached, hscopes, hscopes', List.find?_append, List.find?_append, List.find?_map]
    simp only [Function.comp_def, isFunctionScope_regrown]
    cases ns.find? fun m => m.isFunctionScope with
    | none =>
      left
      rw [Option.none_or, List.find?_singleton]
      split <;> rfl
    | some m => exact .inr rfl
  | program => exact .inl rfl

end Grown

/-! ## Regrown parts -/

theorem opensScope_asIdentifier (move : Nat → Nat) (n : Node) : (n.asIdentifier move).opensScope = false := rfl

theorem nodes_asIdentifier (move : Nat → Nat) (n : Node) : (n.asIdentifier move).nodes = [n.asIdentifier move] := by
  rw [nodes_eq, asIdentifier, List.flatMap_nil]

theorem Nested.regrown {move : Nat → Nat} {swapped : Node → Bool} {n : Node} (h : n.Nested)
    (hmove : ∀ p q, p ≤ q → move p ≤ move q) : (n.regrown move swapped).Nested := by
  induction n using induct with
  | step n ih =>
    intro m hm
    rcases mem_nodes_iff.1 hm with rfl | ⟨c', hc', hbelow⟩
    · have horder := h n n.self_mem_nodes
      rw [children_regrown, start_regrown, stop_regrown]
      refine ⟨fun c' hc' => ?_, ?_⟩
      · obtain ⟨c, hc, rfl⟩ := List.mem_map.1 hc'
        have hspan := horder.inside c hc
        rw [start_regrownPart, stop_regrownPart]
        exact ⟨hmove _ _ hspan.1, hmove _ _ hspan.2.1, hmove _ _ hspan.2.2⟩
      · rw [List.pairwise_map]
        refine horder.apart.imp fun hab => ?_
        rw [start_regrownPart, stop_regrownPart]
        exact hmove _ _ hab
    · rw [children_regrown] at hc'
      obtain ⟨c, hc, rfl⟩ := List.mem_map.1 hc'
      rw [regrownPart] at hbelow
      split at hbelow
      · rw [nodes_asIdentifier, List.mem_singleton] at hbelow
        rw [hbelow]
        exact ⟨by simp [asIdentifier], .nil⟩
      · exact ih c hc (h.child hc) m hbelow

/-- A node of a regrown tree was one before, or is the new callee of a call. -/
theorem exists_of_mem_nodes_regrown {move : Nat → Nat} {swapped : Node → Bool} {n m' : Node}
    (h : m' ∈ (n.regrown move swapped).nodes) :
    (∃ s s', Grown move swapped [] [] n s s' ∧ m' = s.node.regrown move swapped) ∨ ∃ m : Node, m' = m.asIdentifier move := by
  obtain ⟨s', hs', rfl⟩ := exists_site h []
  refine (exists_grown_of_mem_regrown hs' []).imp_left fun ⟨s, hs⟩ => ?_
  exact ⟨s, s', hs, hs.node⟩

/-- The tree of a text that fits the grammar, and in which nothing is called and no scope is opened. -/
structure Inert (n : Node) : Prop where
  nested : n.Nested
  tokens : n.TokensAreLeaves
  sound : ∀ m ∈ n.nodes, m.faulty = false
  plain : ∀ m ∈ n.nodes, m.opensScope = false ∧ m.kind ≠ "call_expression" ∧ m.kind ≠ "program"

instance (n : Node) : Decidable n.Inert :=
  decidable_of_iff
    (n.Nested ∧ n.TokensAreLeaves ∧ (∀ m ∈ n.nodes, m.faulty = false) ∧
      ∀ m ∈ n.nodes, m.opensScope = false ∧ m.kind ≠ "call_expression" ∧ m.kind ≠ "program")
    ⟨fun ⟨h1, h2, h3, h4⟩ => ⟨h1, h2, h3, h4⟩, fun h => ⟨h.nested, h.tokens, h.sound, h.plain⟩⟩

theorem Inert.shifted {n : Node} (h : n.Inert) (start : Nat) : (n.regrown (start + ·) fun _ => false).Inert := by
  have hnodes {m' : Node} (hm' : m' ∈ (n.regrown (start + ·) fun _ => false).nodes) :
      ∃ m ∈ n.nodes, m' = m.regrown (start + ·) fun _ => false := mem_nodes_regrown_of_none (fun _ => rfl) hm'
  refine ⟨h.nested.regrown fun p q hpq => Nat.add_le_add_left hpq start, fun m' hm' hnamed => ?_, fun m' hm' => ?_,
    fun m' hm' => ?_⟩
  · obtain ⟨m, hm, rfl⟩ := hnodes hm'
    rw [children_regrown, h.tokens m hm (by simpa using hnamed), List.map_nil]
  · obtain ⟨m, hm, rfl⟩ := hnodes hm'
    rw [faulty, kind_regrown, missing_regrown]
    exact h.sound m hm
  · obtain ⟨m, hm, rfl⟩ := hnodes hm'
    rw [opensScope_regrown, kind_regrown]
    exact h.plain m hm

end Node

/-! ## Regrown trees -/

namespace Document

section Declared
variable {d : Document} {code : String} {t : Target} {n m : Node} (h : d.root.Grammatical code t)
include h

theorem opensScope_root : d.root.opensScope = false :=
  Node.opensScope_program h.table.program

/-- What a scope declares is declared in the same part of the file. -/
theorem exists_declaration {name : String} (hn : n ∈ d.root.children) (hm : m ∈ n.nodes) (hopens : m.opensScope = true)
    (hentry : d.root.declared? d.source m.key name ≠ none) :
    ∃ r ∈ n.preorder [d.root], r.node.named = true ∧ ∃ decl ∈ r.node.declarations d.source,
      (r.reached d.root decl.reach).key = m.key ∧ r.reached d.root decl.reach ≠ d.root ∧
      decl.name.text d.source = name := by
  obtain ⟨b, hb⟩ := Option.ne_none_iff_exists'.1 hentry
  obtain ⟨r, hr, decl, hdecl, hkey, rfl, hname⟩ := Node.exists_of_declared? hb
  obtain ⟨⟨top, htop, hr⟩, hnamed⟩ := ScopeTable.mem_namedBelow_iff.1 hr
  have hne : r.reached d.root decl.reach ≠ d.root := by
    intro heq
    rw [heq] at hkey
    rw [← Node.opensScope_congr hkey, opensScope_root h] at hopens
    cases hopens
  have hmem : r.reached d.root decl.reach ∈ top.nodes := by
    rcases Node.mem_of_mem_ancestors hr ((r.reached_mem d.root decl.reach).resolve_left hne) with hmem | hmem
    · exact hmem
    · exact absurd (List.mem_singleton.1 hmem) hne
  -- the scope has a span, so it stands in one part of the file only
  obtain rfl : top = n := by
    have hsolid := h.scopes m (Node.mem_nodes_of_child hn hm) hopens
    have hstart : (r.reached d.root decl.reach).start = m.start := congrArg Node.Key.start hkey
    have hstop : (r.reached d.root decl.reach).stop = m.stop := congrArg Node.Key.stop hkey
    have hnested := h.wellFormed.nested
    have hspan := hnested.span_in_child htop hmem
    have hspan' := hnested.span_in_child hn hm
    rcases (hnested d.root d.root.self_mem_nodes).eq_or_apart htop hn with heq | hbefore | hbehind
    · exact heq
    · omega
    · omega
  exact ⟨r, hr, hnamed, decl, hdecl, hkey, hne, hname⟩

variable (hsource : d.source = Bytes.ofString code)
include hsource

/-- Nothing is declared in the callee of a call. -/
theorem declarations_callee {c : CallSite} (hc : c ∈ CallSite.all d.source t d.root) (hm : m ∈ c.callee.nodes) :
    m.declarations d.source = [] := by
  rcases Node.mem_nodes_iff.1 hm with rfl | ⟨k, hk, hbelow⟩
  · have hkind := (CallSite.mem_all_iff.1 hc).2.access
    simp [Node.declarations, hkind]
  · have hleaf := h.callees c (hsource ▸ hc) k hk
    rw [Node.mem_nodes_iff, hleaf] at hbelow
    rcases hbelow with rfl | ⟨k', hk', -⟩
    · exact Node.declarations_of_leaf d.source hleaf
    · cases hk'

variable {start : Nat} {out : Bytes} (hcarries : d.Carries t n start out) (hn : n ∈ d.root.children) (hm : m ∈ n.nodes)
  (hfits : m.Fits (Session.ambientCalls d t)) {decl : Declaration} (hdecl : decl ∈ m.declarations d.source)
include hcarries hn hm hfits hdecl

/-- A node of a printed part declares what it declared. -/
theorem regrown_mem_declarations : decl.regrown (d.moved t n start) (d.redirects t) ∈
    (m.regrown (d.moved t n start) (d.redirects t)).declarations out := by
  have hkind : m.kind ≠ "call_expression" := by
    intro hkind
    simp [Node.declarations, hkind] at hdecl
  refine Node.regrown_mem_declarations (fun n => kind_of_redirects n) (fun n k => kind_of_swappedCallee n k) ?_ hdecl
  intro k hk
  have hchild := Node.mem_children_of_child? hk
  have hfield : k.field = some "kind" := by simpa using List.find?_some hk
  have hroot := Node.mem_nodes_of_child hn (Node.mem_nodes_trans hm (Node.child_mem_nodes hchild))
  have hkfits := fits_child h hsource (Node.mem_nodes_of_child hn hm) hfits hchild
    fun hswapped => hkind (kind_of_redirects m hswapped.1)
  exact hcarries.text_regrown h hsource hn (Node.mem_nodes_trans hm (Node.child_mem_nodes hchild)) hkfits
    (h.keywords k hroot hfield)

/-- A declared name keeps its text. -/
theorem text_name_regrown : (decl.name.regrown (d.moved t n start) (d.redirects t)).text out =
    decl.name.text d.source := by
  have hpasses : ∀ a c : Node, a ∈ n.nodes ∧ a.Fits (Session.ambientCalls d t) → c ∈ a.children →
      a.kind ≠ "call_expression" ∨ c.kind ≠ "member_expression" → c ∈ n.nodes ∧ c.Fits (Session.ambientCalls d t) := by
    rintro a c ⟨ha, hafits⟩ hc hkinds
    refine ⟨Node.mem_nodes_trans ha (Node.child_mem_nodes hc), ?_⟩
    refine fits_child h hsource (Node.mem_nodes_of_child hn ha) hafits hc fun hswapped => ?_
    rcases hkinds with hkind | hkind
    · exact hkind (kind_of_redirects a hswapped.1)
    · exact hkind (kind_of_swappedCallee a c hswapped)
  obtain ⟨⟨hname, hnamefits⟩, hword⟩ := Node.standing_declarations hpasses ⟨hm, hfits⟩ hdecl
  exact hcarries.text_regrown h hsource hn hname hnamefits (h.words _ (Node.mem_nodes_of_child hn hname) hword)

end Declared

/-- The parts of the tree are parts of the file, regrown where they stand in the text, and imports. -/
structure Regrows (d : Document) (t : Target) (out : Bytes) (root' : Node) : Prop where
  program : root'.kind = "program"
  named : root'.named = true
  present : root'.missing = false
  order : Node.InOrder root'.start root'.stop root'.children
  parts : ∀ c ∈ root'.children, c.Inert ∨
    ∃ n ∈ d.root.children, ∃ start, d.Carries t n start out ∧ c = n.regrown (d.moved t n start) (d.redirects t)

/-- A node in another keeps a span of its own. -/
theorem key_of_regrown {d : Document} {t : Target} {n a b : Node} {start : Nat} (hcallee : t.callee ≠ "")
    (ha : Patch.Clear (d.patches t) a.start) (hb : Patch.Clear (d.patches t) b.stop) (hstart : n.start ≤ a.start)
    (hsolid : a.start < a.stop) (hlength : a.stop ≤ d.source.length)
    (hinside : a.start ≤ b.start ∧ b.start ≤ b.stop ∧ b.stop ≤ a.stop)
    (hkey : (b.regrown (d.moved t n start) (d.redirects t)).key = (a.regrown (d.moved t n start) (d.redirects t)).key) :
    b.key = a.key := by
  rw [Node.key_regrown, Node.key_regrown, Node.Key.mk.injEq] at hkey
  obtain ⟨hkind, hfirst, hlast⟩ := hkey
  have hstarts : b.start = a.start := by
    by_contra hne
    have : d.moved t n start a.start < d.moved t n start b.start := moved_lt hcallee ha hstart (by omega) (by omega)
    omega
  have hstops : b.stop = a.stop := by
    by_contra hne
    have : d.moved t n start b.stop < d.moved t n start a.stop :=
      moved_lt hcallee hb (by omega) (by omega) (by omega)
    omega
  rw [Node.key, Node.key, hkind, hstarts, hstops]

/-- No named node in what a scope becomes has its kind and span. -/
theorem key_regrownPart_ne {d : Document} {code : String} {t : Target} {n : Node} {start : Nat} {s : Site}
    (h : d.root.Grammatical code t) (hsource : d.source = Bytes.ofString code) (hcallee : t.callee ≠ "")
    (hn : n ∈ d.root.children) (hs : s ∈ n.preorder [d.root]) (hnamed : s.node.named = true)
    (hopens : s.node.opensScope = true) (hfits : s.node.Fits (Session.ambientCalls d t)) {c m' : Node}
    (hc : c ∈ s.node.children) (hm' : m' ∈ (s.node.regrownPart (d.moved t n start) (d.redirects t) c).nodes)
    (hnamed' : m'.named = true) : m'.key ≠ (s.node.regrown (d.moved t n start) (d.redirects t)).key := by
  intro hkey
  have hkind : m'.opensScope = true := by
    rw [Node.opensScope_congr hkey, Node.opensScope_regrown]
    exact hopens
  by_cases hswapped : Node.IsSwappedCallee (d.redirects t) s.node c
  · rw [Node.regrownPart, if_pos hswapped, Node.nodes_asIdentifier, List.mem_singleton] at hm'
    rw [hm', Node.opensScope_asIdentifier] at hkind
    cases hkind
  · rw [Node.regrownPart_of_not hswapped] at hm'
    rcases Node.exists_of_mem_nodes_regrown hm' with ⟨r, r', hr, rfl⟩ | ⟨k, rfl⟩
    · have hmem := Node.mem_nodes_of_child hn (Node.node_mem_nodes hs)
      obtain ⟨hrmem, hrfits⟩ := fits_of_grown h hsource hr (Node.mem_nodes_trans hmem (Node.child_mem_nodes hc))
        (fits_child h hsource hmem hfits hc hswapped)
      have hspan := h.wellFormed.nested.span_in_child hn (Node.node_mem_nodes hs)
      have hcspan := (h.wellFormed.nested.of_mem hmem).child_span hc
      have hrspan := (h.wellFormed.nested.of_mem hmem).span_in_child hc (Node.node_mem_nodes hr.mem)
      have hsame := key_of_regrown hcallee (clear_of_fits h hmem hspan.2.1 hfits).1
        (clear_of_fits h hrmem hrspan.2.1 hrfits).2 hspan.1 (h.scopes _ hmem hopens)
        (hsource ▸ (h.wellFormed.boundaries _ hmem).2.le_length) ⟨by omega, hrspan.2.1, by omega⟩ hkey
      have hbelow := ScopeTable.mem_namedBelow_iff.2 ⟨⟨n, hn, hs⟩, hnamed⟩
      exact h.table.key_ne hbelow hopens hc (Node.node_mem_nodes hr.mem) (by simpa using hnamed') hsame
    · cases hkind

section Regrows
variable {d : Document} {code : String} {t : Target} {out : Bytes} {root' : Node} (hregrows : d.Regrows t out root')
include hregrows

theorem Regrows.firstFaulty?_eq_none (hfault : d.root.firstFaulty? = none) : root'.firstFaulty? = none := by
  rw [Node.firstFaulty?_eq_none_iff] at hfault ⊢
  intro m hm
  rcases Node.mem_nodes_iff.1 hm with rfl | ⟨c, hc, hbelow⟩
  · simp [Node.faulty, hregrows.program, hregrows.present]
  · rcases hregrows.parts c hc with hinert | ⟨n, hn, start, -, rfl⟩
    · exact hinert.sound m hbelow
    · rcases Node.exists_of_mem_nodes_regrown hbelow with ⟨s, s', hs, rfl⟩ | ⟨k, rfl⟩
      · rw [Node.faulty, Node.kind_regrown, Node.missing_regrown]
        exact hfault _ (Node.mem_nodes_of_child hn (Node.node_mem_nodes hs.mem))
      · rfl

variable (h : d.root.Grammatical code t)
include h

theorem Regrows.nested : root'.Nested := by
  intro m hm
  rcases Node.mem_nodes_iff.1 hm with rfl | ⟨c, hc, hbelow⟩
  · exact hregrows.order
  · rcases hregrows.parts c hc with hinert | ⟨n, hn, start, -, rfl⟩
    · exact hinert.nested m hbelow
    · exact (h.wellFormed.nested.child hn).regrown (fun p q => d.moved_le t n start) m hbelow

theorem Regrows.inner : ∀ c ∈ root'.children, ∀ m ∈ c.nodes, m.kind ≠ "program" := by
  intro c hc m hm
  rcases hregrows.parts c hc with hinert | ⟨n, hn, start, -, rfl⟩
  · exact (hinert.plain m hm).2.2
  · rcases Node.exists_of_mem_nodes_regrown hm with ⟨s, s', hs, rfl⟩ | ⟨k, rfl⟩
    · rw [Node.kind_regrown]
      exact h.wellFormed.inner n hn _ (Node.node_mem_nodes hs.mem)
    · exact (by decide : "identifier" ≠ "program")

theorem Regrows.tokens : root'.TokensAreLeaves := by
  intro m hm hnamed
  rcases Node.mem_nodes_iff.1 hm with rfl | ⟨c, hc, hbelow⟩
  · rw [hregrows.named] at hnamed
    cases hnamed
  · rcases hregrows.parts c hc with hinert | ⟨n, hn, start, -, rfl⟩
    · exact hinert.tokens m hbelow hnamed
    · rcases Node.exists_of_mem_nodes_regrown hbelow with ⟨s, s', hs, rfl⟩ | ⟨k, rfl⟩
      · have hleaf := h.table.tokens s.node (Node.mem_nodes_of_child hn (Node.node_mem_nodes hs.mem)) (by simpa using hnamed)
        rw [Node.children_regrown, hleaf, List.map_nil]
      · rfl

variable (hsource : d.source = Bytes.ofString code)
include hsource

/-- A scope in a part of the file declares what it declared. -/
theorem Regrows.declared?_ne_none {n m : Node} {start : Nat} {name : String} (hn : n ∈ d.root.children)
    (hcarries : d.Carries t n start out) (hpart : n.regrown (d.moved t n start) (d.redirects t) ∈ root'.children)
    (hm : m ∈ n.nodes) (hopens : m.opensScope = true) (hentry : d.root.declared? d.source m.key name ≠ none) :
    root'.declared? out (m.regrown (d.moved t n start) (d.redirects t)).key name ≠ none := by
  obtain ⟨r, hr, hnamed, decl, hdecl, hkey, hne, hname⟩ := exists_declaration h hn hm hopens hentry
  rcases Node.exists_grown_of_mem hr [root'] with ⟨r', hr'⟩ | ⟨k, hk, c, hc, hswapped, hin⟩
  · obtain ⟨hmem, hfits⟩ := fits_of_grown h hsource hr' (Node.child_mem_nodes hn) (fits_top h hn)
    have hdecl' : decl.regrown (d.moved t n start) (d.redirects t) ∈ r'.node.declarations out := by
      rw [hr'.node]
      exact regrown_mem_declarations h hsource hcarries hn (Node.node_mem_nodes hr) hfits hdecl
    have hsite : r' ∈ root'.namedBelow := by
      refine ScopeTable.mem_namedBelow_iff.2 ⟨⟨_, hpart, hr'.mem_regrown⟩, ?_⟩
      rw [hr'.node, Node.named_regrown]
      exact hnamed
    refine Node.declared?_ne_none hsite hdecl' ?_ ?_
    · have hreached := (hr'.reached (opensScope_root h) (Node.opensScope_program hregrows.program) decl.reach).resolve_left hne
      have hparts := Node.Key.mk.inj hkey
      show (r'.reached root' decl.reach).key = _
      rw [hreached, Node.key_regrown, Node.key_regrown, hparts.1, hparts.2.1, hparts.2.2]
    · exact (text_name_regrown h hsource hcarries hn (Node.node_mem_nodes hr) hfits hdecl).trans hname
  · obtain ⟨c, hall, -, rfl⟩ := exists_call_of_swappedCallee h hsource (Node.mem_nodes_of_child hn hk) hc hswapped
    rw [declarations_callee h hsource hall hin] at hdecl
    cases hdecl

variable (hcallee : t.callee ≠ "")
include hcallee

/-- The scopes of the tree are told apart, as those of the file are. -/
theorem Regrows.scoped : ScopeTable.Scoped root' := by
  refine ScopeTable.scoped_of_nested hregrows.program (hregrows.inner h) (hregrows.tokens h) (hregrows.nested h) ?_
  intro s' hs' hopens
  obtain ⟨⟨c, hc, hs'⟩, hnamed⟩ := ScopeTable.mem_namedBelow_iff.1 hs'
  rcases hregrows.parts c hc with hinert | ⟨n, hn, start, -, rfl⟩
  · rw [(hinert.plain _ (Node.node_mem_nodes hs')).1] at hopens
    cases hopens
  · rcases Node.exists_grown_of_mem_regrown hs' [d.root] with ⟨s, hs⟩ | ⟨k, hk⟩
    · rw [hs.node, Node.opensScope_regrown] at hopens
      rw [hs.node, Node.named_regrown] at hnamed
      obtain ⟨hmem, hfits⟩ := fits_of_grown h hsource hs (Node.child_mem_nodes hn) (fits_top h hn)
      have hspan := h.wellFormed.nested.span_in_child hn (Node.node_mem_nodes hs.mem)
      have hlength : s.node.stop ≤ d.source.length := hsource ▸ (h.wellFormed.boundaries _ hmem).2.le_length
      have hsolid := h.scopes _ hmem hopens
      rw [hs.node]
      refine ⟨?_, fun c' hc' m' hm' hnamed' => ?_⟩
      · rw [Node.start_regrown, Node.stop_regrown]
        exact moved_lt hcallee (clear_of_fits h hmem hspan.2.1 hfits).1 hspan.1 hsolid (by omega)
      · rw [Node.children_regrown] at hc'
        obtain ⟨c, hc, rfl⟩ := List.mem_map.1 hc'
        exact key_regrownPart_ne h hsource hcallee hn hs.mem hnamed hopens hfits hc hm' hnamed'
    · rw [hk, Node.opensScope_asIdentifier] at hopens
      cases hopens

/-- A name that the program does not declare stays bound where it is bound. -/
theorem Regrows.resolve_ne_none {n : Node} {start : Nat} {s s' : Site} {name : String} (hn : n ∈ d.root.children)
    (hcarries : d.Carries t n start out) (hpart : n.regrown (d.moved t n start) (d.redirects t) ∈ root'.children)
    (hs : Node.Grown (d.moved t n start) (d.redirects t) [d.root] [root'] n s s')
    (hprogram : d.root.declared? d.source d.root.key name = none)
    (hbound : (ScopeTable.ofTree d.source d.root).resolve s name ≠ none) :
    (ScopeTable.ofTree out root').resolve s' name ≠ none := by
  have hsite : s ∈ d.root.preorder [] := Node.mem_preorder_of_child hn hs.mem
  have hsite' : s' ∈ root'.preorder [] := Node.mem_preorder_of_child hpart hs.mem_regrown
  obtain ⟨ns, hns, hscopes, hscopes'⟩ := hs.scopes (opensScope_root h) (Node.opensScope_program hregrows.program)
  rw [h.table.resolve_eq _ hsite, hscopes] at hbound
  rw [(hregrows.scoped h hsource hcallee).resolve_eq _ hsite', hscopes']
  obtain ⟨b, hb⟩ := Option.ne_none_iff_exists'.1 hbound
  obtain ⟨m, hm, hb⟩ := List.exists_of_findSome?_eq_some hb
  rcases List.mem_append.1 hm with hm | hm
  · have hentry := hregrows.declared?_ne_none h hsource hn hcarries hpart (hns m hm).1 (hns m hm).2
      (Option.ne_none_iff_exists'.2 ⟨b, hb⟩)
    intro hnone
    exact hentry (List.findSome?_eq_none_iff.1 hnone _ (List.mem_append_left _ (List.mem_map_of_mem hm)))
  · rw [List.mem_singleton.1 hm, hprogram] at hb
    cases hb

end Regrows
end Document

end CallRedirect
