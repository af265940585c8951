import CallRedirect.Proofs.Preorder
import CallRedirect.Scope.Table
import Mathlib.Data.List.Forall2

/-! # What a name means

`ScopeTable.ofTree` builds the scopes of a program in one walk, and `ScopeTable.resolve` finds the scopes around a place by
the spans of the nodes that open them. Here the same is said of the tree itself: every declaration belongs to one of the
scopes around it, and a name means its first declaration in the innermost scope that has one.

* `Site.scopes`: the scopes around a site, as the nodes that open them.
* `Site.reached`: the scope that a declaration belongs to.
* `Node.declared?`: the first declaration of a name in a scope, in document order.
* `ScopeTable.Tracks`: what the table holds after part of the walk; `Tracks.record` is one step and `Tracks.visitsOn` the
  whole walk.
* `ScopeTable.resolve_eq`: the meaning of a name at a site. -/

namespace CallRedirect
set_option autoImplicit false

/-! ## Scopes of a tree -/

namespace Node

/-- The node opens a scope. -/
def opensScope (n : Node) : Bool := n.scopeKind?.isSome

/-- Of a node that opens a scope, and of the program: its scope is that of a function, or of the program. -/
def isFunctionScope (n : Node) : Bool := n.scopeKind? != some .block

/-- Tokens have no parts. -/
def TokensAreLeaves (root : Node) : Prop := ∀ n ∈ root.nodes, n.named = false → n.children = []

instance (root : Node) : Decidable root.TokensAreLeaves :=
  inferInstanceAs (Decidable (∀ n ∈ root.nodes, n.named = false → n.children = []))

theorem opensScope_congr {n m : Node} (h : n.key = m.key) : n.opensScope = m.opensScope := by
  have hkind : n.kind = m.kind := congrArg Key.kind h
  rw [opensScope, scopeKind?, opensScope, scopeKind?, hkind]

theorem scopeKind?_program {n : Node} (h : n.kind = "program") : n.scopeKind? = none := by
  simp [scopeKind?, h]

theorem opensScope_program {n : Node} (h : n.kind = "program") : n.opensScope = false := by
  rw [opensScope, scopeKind?_program h, Option.isSome_none]

theorem declarations_program (src : Bytes) {n : Node} (h : n.kind = "program") : n.declarations src = [] := by
  simp [declarations, h]

theorem TokensAreLeaves.child {n c : Node} (h : n.TokensAreLeaves) (hc : c ∈ n.children) : c.TokensAreLeaves :=
  fun m hm => h m (mem_nodes_of_child hc hm)

end Node

namespace Site

/-- The nodes that open the scopes around a site, innermost first; the program is the last. -/
def scopes (root : Node) (s : Site) : List Node := s.ancestors.filter Node.opensScope ++ [root]

/-- The same for what stands in the node of the site. -/
def scopesWithin (root : Node) (s : Site) : List Node := (s.node :: s.ancestors).filter Node.opensScope ++ [root]

@[simp] theorem scopes_child (root : Node) (s : Site) (c : Node) : (s.child c).scopes root = s.scopesWithin root := rfl

theorem scopesWithin_eq (root : Node) (s : Site) :
    s.scopesWithin root = if s.node.opensScope then s.node :: s.scopes root else s.scopes root := by
  rw [scopesWithin, scopes]
  split
  · next h => rw [List.filter_cons_of_pos h, List.cons_append]
  · next h => rw [List.filter_cons_of_neg h]

/-- The scope that a declaration at a site belongs to, as the node that opens it. -/
def reached (root : Node) (s : Site) : Reach → Node
  | .own => (s.scopesWithin root).headD root
  | .around => (s.scopes root).headD root
  | .function => ((s.scopes root).find? Node.isFunctionScope).getD root
  | .program => root

/-- What the node of a site declares, each with the scope it belongs to. -/
def entries (src : Bytes) (root : Node) (s : Site) : List (Node.Key × Binding) :=
  (s.node.declarations src).map fun d => ((s.reached root d.reach).key, ⟨d.name.text src, d.kind, d.name⟩)

/-- The named sites at and below a site, in document order. -/
def namedSites (s : Site) : List Site := (s.node.preorder s.ancestors).filter fun s => s.node.named

/-- The sites of the named children. -/
def namedChildren (s : Site) : List Site := s.node.namedChildren.map s.child

end Site

namespace Node

/-- The named sites of a program below its root, in document order. -/
def namedBelow (root : Node) : List Site := (root.children.flatMap (preorder [root])).filter fun s => s.node.named

/-- All declarations of a program, in document order. -/
def entries (src : Bytes) (root : Node) : List (Key × Binding) := root.namedBelow.flatMap (Site.entries src root)

/-- The first declaration of a name among some that belong to the scope with a given key. -/
def firstEntry (key : Key) (name : String) (entries : List (Key × Binding)) : Option Binding :=
  (entries.find? fun e => e.1 == key && e.2.name == name).map Prod.snd

/-- The first declaration of a name that belongs to the scope with a given key. -/
def declared? (src : Bytes) (root : Node) (key : Key) (name : String) : Option Binding :=
  firstEntry key name (root.entries src)

theorem firstEntry_append (key : Key) (name : String) (es fs : List (Key × Binding)) :
    firstEntry key name (es ++ fs) = (firstEntry key name es).or (firstEntry key name fs) := by
  rw [firstEntry, List.find?_append, firstEntry, firstEntry]
  cases es.find? fun e => e.1 == key && e.2.name == name <;> rfl

theorem firstEntry_eq_none {key : Key} {name : String} {es : List (Key × Binding)} (h : ∀ e ∈ es, e.1 ≠ key) :
    firstEntry key name es = none := by
  rw [firstEntry, Option.map_eq_none_iff, List.find?_eq_none]
  intro e he
  simp [h e he]

theorem exists_of_declared? {src : Bytes} {root : Node} {key : Key} {name : String} {b : Binding}
    (h : root.declared? src key name = some b) :
    ∃ s ∈ root.namedBelow, ∃ d ∈ s.node.declarations src, (s.reached root d.reach).key = key ∧
      b = ⟨d.name.text src, d.kind, d.name⟩ ∧ b.name = name := by
  obtain ⟨e, he, rfl⟩ := Option.map_eq_some_iff.1 h
  have hfound : e.1 = key ∧ e.2.name = name := by simpa using List.find?_some he
  obtain ⟨s, hs, hes⟩ := List.mem_flatMap.1 (List.mem_of_find?_eq_some he)
  obtain ⟨d, hd, rfl⟩ := List.mem_map.1 hes
  exact ⟨s, hs, d, hd, hfound.1, rfl, hfound.2⟩

end Node

/-! ## The walk over the named nodes -/

/-- Every site but the first stands right below another one. -/
theorem Node.exists_parent {n : Node} {outer : List Node} {s : Site} (hs : s ∈ n.preorder outer) :
    s = ⟨n, outer⟩ ∨ ∃ p ∈ n.preorder outer, ∃ c ∈ p.node.children, s = p.child c := by
  induction n using Node.induct generalizing outer with
  | step n ih =>
    rw [preorder_eq, List.mem_cons, List.mem_flatMap] at hs
    rcases hs with rfl | ⟨c, hc, hsc⟩
    · exact .inl rfl
    · right
      rcases ih c hc hsc with rfl | ⟨p, hp, c', hc', rfl⟩
      · exact ⟨⟨n, outer⟩, n.self_mem_preorder outer, c, hc, rfl⟩
      · exact ⟨p, mem_preorder_of_child hc hp, c', hc', rfl⟩

namespace Site

/-- A token among some nodes is passed over, and has nothing below it. -/
theorem filter_named_preorder {ns : List Node} (h : ∀ n ∈ ns, n.named = false → n.children = []) (outer : List Node) :
    (ns.flatMap (Node.preorder outer)).filter (fun s => s.node.named) =
      ((ns.filter (·.named)).map (⟨·, outer⟩)).flatMap namedSites := by
  induction ns with
  | nil => rfl
  | cons n ns ih =>
    rw [List.flatMap_cons, List.filter_append, ih fun m hm => h m (List.mem_cons_of_mem n hm)]
    cases hn : n.named with
    | true =>
      rw [List.filter_cons_of_pos hn, List.map_cons, List.flatMap_cons]
      rfl
    | false =>
      rw [List.filter_cons_of_neg (by simp [hn]), Node.preorder_eq, h n List.mem_cons_self hn]
      simp [hn]

theorem namedSites_eq {s : Site} (h : s.node.TokensAreLeaves) (hnamed : s.node.named = true) :
    s.namedSites = s :: s.namedChildren.flatMap namedSites := by
  have hchildren := filter_named_preorder (fun c hc => h c (Node.child_mem_nodes hc)) (s.node :: s.ancestors)
  rw [namedSites, Node.preorder_eq, List.filter_cons, if_pos hnamed, hchildren]
  rfl

end Site

theorem Node.namedBelow_eq {root : Node} (h : root.TokensAreLeaves) :
    root.namedBelow = (Site.namedChildren ⟨root, []⟩).flatMap Site.namedSites := by
  rw [namedBelow, Site.filter_named_preorder fun c hc => h c (child_mem_nodes hc)]
  rfl

/-! ## Following the walk -/

namespace ScopeTable

/-- The indices stand for these nodes in a list. -/
def Points (nodes : List Node) (is : List Nat) (ns : List Node) : Prop :=
  List.Forall₂ (fun i n => nodes[i]? = some n) is ns

theorem Points.append {nodes : List Node} {is : List Nat} {ns : List Node} (h : Points nodes is ns)
    (more : List Node) : Points (nodes ++ more) is ns := by
  refine List.Forall₂.imp ?_ h
  intro i n hi
  rw [List.getElem?_append_left (List.getElem?_eq_some_iff.1 hi).1, hi]

theorem Points.headD {nodes : List Node} {is : List Nat} {ns : List Node} {root : Node} (h : Points nodes is ns)
    (hroot : nodes[0]? = some root) : nodes[is.headD 0]? = some (ns.headD root) := by
  cases h with
  | nil => exact hroot
  | cons hi _ => exact hi

theorem Points.find? {nodes : List Node} {is : List Nat} {ns : List Node} {root : Node} (h : Points nodes is ns)
    (hroot : nodes[0]? = some root) {p : Nat → Bool} {q : Node → Bool} (hpq : ∀ i n, nodes[i]? = some n → p i = q n) :
    nodes[(is.find? p).getD 0]? = some ((ns.find? q).getD root) := by
  induction h with
  | nil => exact hroot
  | @cons i n is ns hi _ ih =>
    rw [List.find?_cons, List.find?_cons, hpq i n hi]
    cases q n with
    | true => exact hi
    | false => exact ih

/-- A scope of the table belongs to the node of a site; `nodes` are the nodes of all scopes, and `entries` what was
declared so far. -/
structure ScopeAt (root : Node) (nodes : List Node) (entries : List (Node.Key × Binding)) (s : Site) (scope : Scope) :
    Prop where
  node : scope.node = s.node
  kind : scope.kind = s.node.scopeKind?.getD .function
  outer : Points nodes scope.outer (s.scopesWithin root).tail
  find : ∀ name, scope.find? name = Node.firstEntry s.node.key name entries

/-- The scopes of the table are those that the nodes of some sites open, and hold what was declared so far. -/
structure Tracks (root : Node) (opened : List Site) (entries : List (Node.Key × Binding)) (t : ScopeTable) : Prop where
  scopes : List.Forall₂ (ScopeAt root (opened.map Site.node) entries) opened t.scopes
  entered : ∀ e ∈ entries, ∃ s ∈ opened, e.1 = s.node.key
  distinct : (opened.map fun s => s.node.key).Nodup
  program : opened.head? = some ⟨root, []⟩

namespace Tracks
variable {src : Bytes} {root : Node} {opened : List Site} {entries : List (Node.Key × Binding)} {t : ScopeTable}

theorem length_scopes (h : Tracks root opened entries t) : t.scopes.length = opened.length := h.scopes.length_eq.symm

theorem nodes_zero (h : Tracks root opened entries t) : (opened.map Site.node)[0]? = some root := by
  rw [List.getElem?_map, ← List.head?_eq_getElem?, h.program]
  rfl

theorem exists_scope (h : Tracks root opened entries t) {i : Nat} {n : Node} (hi : (opened.map Site.node)[i]? = some n) :
    ∃ s scope, opened[i]? = some s ∧ t.scopes[i]? = some scope ∧ s.node = n ∧
      ScopeAt root (opened.map Site.node) entries s scope := by
  rw [List.getElem?_map] at hi
  obtain ⟨s, hs, rfl⟩ := Option.map_eq_some_iff.1 hi
  obtain ⟨hlt, hs'⟩ := List.getElem?_eq_some_iff.1 hs
  have hlt' : i < t.scopes.length := h.length_scopes ▸ hlt
  refine ⟨s, t.scopes[i], hs, List.getElem?_eq_getElem hlt', rfl, ?_⟩
  rw [← hs']
  exact (List.forall₂_iff_get.1 h.scopes).2 i hlt hlt'

/-- A scope is known by its key. -/
theorem index_eq (h : Tracks root opened entries t) {i j : Nat} {s s' : Site} (hi : opened[i]? = some s)
    (hj : opened[j]? = some s') (hkey : s.node.key = s'.node.key) : i = j := by
  have hlt : i < (opened.map fun s => s.node.key).length := by
    simpa using (List.getElem?_eq_some_iff.1 hi).1
  refine (List.getElem?_inj hlt h.distinct).1 ?_
  rw [List.getElem?_map, List.getElem?_map, hi, hj, Option.map_some, Option.map_some, hkey]

theorem isFunction_eq (h : Tracks root opened entries t) (i : Nat) (n : Node)
    (hi : (opened.map Site.node)[i]? = some n) : t.isFunction i = n.isFunctionScope := by
  obtain ⟨s, scope, -, hscope, rfl, hat⟩ := h.exists_scope hi
  rw [isFunction, hscope, Option.any_some, hat.kind, Node.isFunctionScope]
  cases s.node.scopeKind? with
  | none => rfl
  | some kind => cases kind <;> rfl

/-! ## One step -/

/-- The visit is that of a site, and its indices stand for the scopes around it. -/
structure VisitAt (root : Node) (nodes : List Node) (s : Site) (v : Visit) : Prop where
  node : v.node = s.node
  around : Points nodes v.around (s.scopes root)
  within : Points nodes v.within (s.scopesWithin root)

/-- A declaration is entered into the scope it belongs to. -/
theorem target_eq (h : Tracks root opened entries t) {s : Site} {v : Visit}
    (hv : VisitAt root (opened.map Site.node) s v) (reach : Reach) :
    (opened.map Site.node)[t.target v reach]? = some (s.reached root reach) := by
  cases reach with
  | own => exact hv.within.headD h.nodes_zero
  | around => exact hv.around.headD h.nodes_zero
  | function => exact hv.around.find? h.nodes_zero h.isFunction_eq
  | program => exact h.nodes_zero

theorem find?_declare (scope : Scope) (b : Binding) (name : String) :
    (scope.declare b).find? name = (scope.find? name).or (if b.name == name then some b else none) := by
  rw [Scope.declare]
  split
  · next h =>
    by_cases hb : b.name = name
    · subst hb
      obtain ⟨b', hb'⟩ := Option.isSome_iff_exists.1 h
      rw [hb']
      rfl
    · rw [if_neg (by simpa using hb), Option.or_none]
  · rw [Scope.find?, List.find?_append, Scope.find?, List.find?_singleton]

/-- A property of pairs is carried over to a list in which one element is changed. -/
theorem forall₂_modify {α β : Type} {P Q : α → β → Prop} {as : List α} {bs : List β} {j : Nat} {f : β → β}
    (h : List.Forall₂ P as bs) (hother : ∀ i a b, as[i]? = some a → i ≠ j → P a b → Q a b)
    (hchanged : ∀ a b, as[j]? = some a → P a b → Q a (f b)) : List.Forall₂ Q as (bs.modify j f) := by
  rw [List.forall₂_iff_get] at h ⊢
  refine ⟨by rw [List.length_modify, h.1], fun i hi hi' => ?_⟩
  have hget := h.2 i hi (h.1 ▸ hi)
  simp only [List.get_eq_getElem, List.getElem_modify] at hget ⊢
  split
  · next hij =>
    subst hij
    exact hchanged _ _ (List.getElem?_eq_getElem hi) hget
  · next hij => exact hother i _ _ (List.getElem?_eq_getElem hi) (Ne.symm hij) hget

theorem declare (h : Tracks root opened entries t) {s : Site} {v : Visit}
    (hv : VisitAt root (opened.map Site.node) s v) (d : Declaration) :
    Tracks root opened (entries ++ [((s.reached root d.reach).key, ⟨d.name.text src, d.kind, d.name⟩)])
      (t.declare src v d) := by
  have htarget := h.target_eq hv d.reach
  obtain ⟨s', -, hs', -, hnode, -⟩ := h.exists_scope htarget
  refine ⟨?_, ?_, h.distinct, h.program⟩
  · apply forall₂_modify h.scopes
    · -- the keys of two scopes differ, so the declaration belongs to no other scope
      intro i site scope hsite hne hat
      refine ⟨hat.node, hat.kind, hat.outer, fun name => ?_⟩
      have hkey : (s.reached root d.reach).key ≠ site.node.key :=
        fun heq => hne (h.index_eq hsite hs' (by rw [hnode, heq]))
      have hother (b : Binding) : ∀ e ∈ [((s.reached root d.reach).key, b)], e.1 ≠ site.node.key := by simpa using hkey
      rw [Node.firstEntry_append, hat.find, Node.firstEntry_eq_none (hother _), Option.or_none]
    · intro site scope hsite hat
      obtain rfl : s' = site := Option.some.inj (hs'.symm.trans hsite)
      have hfields : ∀ b, (scope.declare b).node = scope.node ∧ (scope.declare b).kind = scope.kind ∧
          (scope.declare b).outer = scope.outer := by
        intro b
        rw [Scope.declare]
        split <;> exact ⟨rfl, rfl, rfl⟩
      refine ⟨(hfields _).1.trans hat.node, (hfields _).2.1.trans hat.kind, ?_, fun name => ?_⟩
      · rw [(hfields _).2.2]
        exact hat.outer
      · rw [find?_declare, hat.find, Node.firstEntry_append, Node.firstEntry, Node.firstEntry, List.find?_singleton, hnode]
        simp
  · intro e he
    rcases List.mem_append.1 he with he | he
    · exact h.entered e he
    · obtain rfl := List.mem_singleton.1 he
      exact ⟨s', List.mem_of_getElem? hs', by rw [hnode]⟩

theorem declareAll (h : Tracks root opened entries t) {s : Site} {v : Visit}
    (hv : VisitAt root (opened.map Site.node) s v) :
    Tracks root opened (entries ++ s.entries src root) (t.declareAll src v) := by
  rw [ScopeTable.declareAll, Site.entries, hv.node]
  induction s.node.declarations src generalizing entries t with
  | nil => simpa using h
  | cons d ds ih =>
    rw [List.foldl_cons, List.map_cons, ← List.singleton_append, ← List.append_assoc]
    exact ih (h.declare hv d)

/-- The scope of a node that opens one is added at the end; nothing belongs to it yet. -/
theorem enter (h : Tracks root opened entries t) {s : Site} {v : Visit} (hnode : v.node = s.node)
    (haround : Points (opened.map Site.node) v.around (s.scopes root)) (hopens : s.node.opensScope = true)
    (hdistinct : ((opened ++ [s]).map fun s => s.node.key).Nodup) : Tracks root (opened ++ [s]) entries (t.enter v) := by
  obtain ⟨kind, hkind⟩ := Option.isSome_iff_exists.1 hopens
  have hfresh : ∀ e ∈ entries, e.1 ≠ s.node.key := by
    intro e he heq
    obtain ⟨s', hs', hkey⟩ := h.entered e he
    rw [List.map_append, List.nodup_append] at hdistinct
    exact hdistinct.2.2 _ (List.mem_map_of_mem hs') _ (List.mem_map_of_mem (List.mem_singleton_self s)) (hkey ▸ heq)
  have hprogram : (opened ++ [s]).head? = some ⟨root, []⟩ := by rw [List.head?_append, h.program, Option.some_or]
  refine ⟨?_, fun e he => ?_, hdistinct, hprogram⟩
  · rw [ScopeTable.enter, hnode, hkind, List.map_append]
    refine List.rel_append ?_ (.cons ⟨rfl, by simp [hkind], ?_, fun name => ?_⟩ .nil)
    · exact h.scopes.imp fun site scope hat => ⟨hat.node, hat.kind, hat.outer.append _, hat.find⟩
    · rw [Site.scopesWithin_eq, if_pos hopens]
      exact haround.append _
    · rw [Node.firstEntry_eq_none hfresh]
      rfl
  · obtain ⟨s', hs', hkey⟩ := h.entered e he
    exact ⟨s', List.mem_append_left _ hs', hkey⟩

end Tracks

/-! ## The whole walk -/

/-- The node waits to be visited at a site, and its indices stand for the scopes around it. -/
structure PendingAt (root : Node) (nodes : List Node) (s : Site) (p : Pending) : Prop where
  node : p.node = s.node
  around : Points nodes p.around (s.scopes root)

section Walk
variable {src : Bytes} {root : Node} {opened : List Site} {entries : List (Node.Key × Binding)} {t : ScopeTable}

/-- The scope of a site, if it opens one, as a list. -/
def openedAt (s : Site) : List Site := [s].filter fun s => s.node.opensScope

theorem openedAt_of_opens {s : Site} (h : s.node.opensScope = true) : openedAt s = [s] :=
  List.filter_cons_of_pos h

theorem openedAt_of_not {s : Site} (h : ¬ s.node.opensScope = true) : openedAt s = [] :=
  List.filter_cons_of_neg h

/-- The scope that a visited node opens has the number of the scopes before it. -/
theorem PendingAt.visit {s : Site} {p : Pending} (hp : PendingAt root (opened.map Site.node) s p) :
    Tracks.VisitAt root ((opened ++ openedAt s).map Site.node) s (p.visit opened.length) := by
  rw [List.map_append]
  refine ⟨hp.node, hp.around.append _, ?_⟩
  rw [Site.scopesWithin_eq, Pending.visit, hp.node]
  by_cases hopens : s.node.opensScope = true
  · rw [if_pos hopens, openedAt_of_opens hopens]
    show Points _ (if s.node.opensScope = true then _ else _) _
    rw [if_pos hopens]
    exact .cons (by simp) (hp.around.append _)
  · rw [if_neg hopens]
    show Points _ (if s.node.opensScope = true then _ else _) _
    rw [if_neg hopens]
    exact hp.around.append _

theorem Tracks.record (h : Tracks root opened entries t) (src : Bytes) {s : Site} {p : Pending}
    (hp : PendingAt root (opened.map Site.node) s p)
    (hdistinct : ((opened ++ openedAt s).map fun s => s.node.key).Nodup) :
    Tracks root (opened ++ openedAt s) (entries ++ s.entries src root) (t.record src (p.visit opened.length)) := by
  have henter : Tracks root (opened ++ openedAt s) entries (t.enter (p.visit opened.length)) := by
    by_cases hopens : s.node.opensScope = true
    · rw [openedAt_of_opens hopens] at hdistinct ⊢
      exact h.enter hp.node hp.around hopens hdistinct
    · have hnone : s.node.scopeKind? = none := by simpa [Node.opensScope] using hopens
      have hsame : t.enter (p.visit opened.length) = t := by
        rw [ScopeTable.enter, Pending.visit, hp.node]
        dsimp only
        rw [hnone]
      rw [openedAt_of_not hopens, List.append_nil, hsame]
      exact h
  exact henter.declareAll hp.visit

theorem length_openedAt {s : Site} {p : Pending} (hnode : p.node = s.node) (opened : List Site) :
    (opened ++ openedAt s).length = if p.node.scopeKind?.isSome = true then opened.length + 1 else opened.length := by
  rw [hnode]
  show _ = if s.node.opensScope = true then _ else _
  by_cases hopens : s.node.opensScope = true
  · rw [openedAt_of_opens hopens, if_pos hopens, List.length_append, List.length_singleton]
  · rw [openedAt_of_not hopens, List.append_nil, if_neg hopens]

/-- The children of a visited node wait in the scopes that are within it. -/
theorem pendingAt_children {nodes : List Node} {s : Site} {v : Visit} (hnode : v.node = s.node)
    (hwithin : Points nodes v.within (s.scopesWithin root)) :
    List.Forall₂ (PendingAt root nodes) s.namedChildren v.children := by
  rw [Site.namedChildren, Visit.children, hnode, List.forall₂_map_left_iff, List.forall₂_map_right_iff, List.forall₂_same]
  intro c _
  exact ⟨rfl, hwithin⟩

theorem tokens_namedChildren {s c : Site} (h : s.node.TokensAreLeaves) (hc : c ∈ s.namedChildren) :
    c.node.TokensAreLeaves ∧ c.node.named = true := by
  obtain ⟨n, hn, rfl⟩ := List.mem_map.1 hc
  obtain ⟨hn, hnamed⟩ := List.mem_filter.1 hn
  exact ⟨h.child hn, hnamed⟩

/-- The nodes on a stack, with all named nodes below them, are visited in document order. -/
theorem Tracks.visitsOn (h : Tracks root opened entries t) (src : Bytes) {stack : List Pending} {sites : List Site}
    (hstack : List.Forall₂ (PendingAt root (opened.map Site.node)) sites stack)
    (htokens : ∀ s ∈ sites, s.node.TokensAreLeaves) (hnamed : ∀ s ∈ sites, s.node.named = true)
    (hdistinct : ((opened ++ (sites.flatMap Site.namedSites).filter fun s => s.node.opensScope).map
      fun s => s.node.key).Nodup) :
    Tracks root (opened ++ (sites.flatMap Site.namedSites).filter fun s => s.node.opensScope)
      (entries ++ (sites.flatMap Site.namedSites).flatMap (Site.entries src root))
      ((ScopeTable.visitsOn opened.length stack).foldl (ScopeTable.record src) t) := by
  generalize hn : opened.length = n
  fun_induction ScopeTable.visitsOn n stack generalizing sites opened entries t with
  | case1 n =>
    obtain rfl := List.forall₂_nil_right_iff.1 hstack
    simpa using h
  | case2 n p stack ih =>
    subst hn
    obtain ⟨s, sites, hp, hrest, rfl⟩ := List.forall₂_cons_right_iff.1 hstack
    have hflat : (s :: sites).flatMap Site.namedSites = s :: (s.namedChildren ++ sites).flatMap Site.namedSites := by
      rw [List.flatMap_cons, Site.namedSites_eq (htokens s List.mem_cons_self) (hnamed s List.mem_cons_self),
        List.flatMap_append]
      rfl
    have hopened (rest : List Site) : opened ++ ((s :: rest).filter fun s => s.node.opensScope) =
        (opened ++ openedAt s) ++ rest.filter fun s => s.node.opensScope := by
      rw [List.append_assoc, openedAt, ← List.filter_append, List.singleton_append]
    rw [hflat, hopened] at hdistinct ⊢
    have hstep := h.record src hp (hdistinct.sublist (by simp))
    have hpending : List.Forall₂ (PendingAt root ((opened ++ openedAt s).map Site.node)) (s.namedChildren ++ sites)
        ((p.visit opened.length).children ++ stack) := by
      refine List.rel_append (pendingAt_children hp.visit.node hp.visit.within) (hrest.imp fun s' p' hp' => ⟨hp'.node, ?_⟩)
      rw [List.map_append]
      exact hp'.around.append _
    have hbelow : ∀ s' ∈ s.namedChildren ++ sites, s'.node.TokensAreLeaves ∧ s'.node.named = true := by
      intro s' hs'
      rcases List.mem_append.1 hs' with hs' | hs'
      · exact tokens_namedChildren (htokens s List.mem_cons_self) hs'
      · exact ⟨htokens s' (List.mem_cons_of_mem s hs'), hnamed s' (List.mem_cons_of_mem s hs')⟩
    rw [List.foldl_cons, List.flatMap_cons, ← List.append_assoc]
    exact ih hstep hpending (fun s' hs' => (hbelow s' hs').1) (fun s' hs' => (hbelow s' hs').2) hdistinct
      (length_openedAt hp.node opened)

end Walk

/-! ## The table of a program -/

/-- What a parser promises about the scopes of a program: tokens are leaves, nothing below the root is a program, and
nodes that open scopes differ in kind or span. -/
structure Scoped (root : Node) : Prop where
  program : root.kind = "program"
  inner : ∀ c ∈ root.children, ∀ n ∈ c.nodes, n.kind ≠ "program"
  tokens : root.TokensAreLeaves
  distinct : ((root.namedBelow.filter fun s => s.node.opensScope).map fun s => s.node.key).Nodup

instance (root : Node) : Decidable (Scoped root) :=
  decidable_of_iff
    (root.kind = "program" ∧ (∀ c ∈ root.children, ∀ n ∈ c.nodes, n.kind ≠ "program") ∧ root.TokensAreLeaves ∧
      ((root.namedBelow.filter fun s => s.node.opensScope).map fun s => s.node.key).Nodup)
    ⟨fun ⟨h1, h2, h3, h4⟩ => ⟨h1, h2, h3, h4⟩, fun h => ⟨h.program, h.inner, h.tokens, h.distinct⟩⟩

section Table
variable {src : Bytes} {root : Node}

/-- The sites of all scopes, the program first. -/
def openedSites (root : Node) : List Site := ⟨root, []⟩ :: root.namedBelow.filter fun s => s.node.opensScope

theorem mem_namedBelow_iff {s : Site} :
    s ∈ root.namedBelow ↔ (∃ c ∈ root.children, s ∈ c.preorder [root]) ∧ s.node.named = true := by
  rw [Node.namedBelow, List.mem_filter, List.mem_flatMap]

theorem Scoped.kind_ne (h : Scoped root) {s : Site} (hs : s ∈ root.namedBelow) : s.node.kind ≠ "program" := by
  obtain ⟨⟨c, hc, hsc⟩, -⟩ := mem_namedBelow_iff.1 hs
  exact h.inner c hc _ (Node.node_mem_nodes hsc)

theorem Scoped.distinct_opened (h : Scoped root) : ((openedSites root).map fun s => s.node.key).Nodup := by
  rw [openedSites, List.map_cons, List.nodup_cons]
  refine ⟨fun hmem => ?_, h.distinct⟩
  obtain ⟨s, hs, hkey⟩ := List.mem_map.1 hmem
  exact h.kind_ne (List.mem_filter.1 hs).1 ((congrArg Node.Key.kind hkey).trans h.program)

theorem Scoped.scopesWithin_program (h : Scoped root) : Site.scopesWithin root ⟨root, []⟩ = [root] := by
  simp [Site.scopesWithin, Node.opensScope_program h.program]

theorem Scoped.tracks_program (h : Scoped root) (src : Bytes) :
    Tracks root [⟨root, []⟩] [] ((ScopeTable.program root).declareAll src (programVisit root)) := by
  have hnone := Node.scopeKind?_program h.program
  have hdeclarations : (programVisit root).node.declarations src = [] := Node.declarations_program src h.program
  rw [declareAll, hdeclarations]
  refine ⟨.cons ⟨rfl, by simp [hnone], ?_, fun name => rfl⟩ .nil, by simp, by simp, rfl⟩
  rw [h.scopesWithin_program]
  exact .nil

/-- The table of a program has a scope for the root and for each named node that opens one, and holds all
declarations. -/
theorem Scoped.tracks_ofTree (h : Scoped root) (src : Bytes) :
    Tracks root (openedSites root) (root.entries src) (ofTree src root) := by
  have hbelow := Node.namedBelow_eq h.tokens
  have hpending : List.Forall₂ (PendingAt root ([⟨root, []⟩].map Site.node)) (Site.namedChildren ⟨root, []⟩)
      (programVisit root).children := by
    apply pendingAt_children rfl
    rw [h.scopesWithin_program]
    exact .cons rfl .nil
  have hwalk := (h.tracks_program src).visitsOn src hpending (fun s hs => (tokens_namedChildren h.tokens hs).1)
    (fun s hs => (tokens_namedChildren h.tokens hs).2) (hbelow ▸ h.distinct_opened)
  rw [← hbelow] at hwalk
  exact hwalk

/-! ## Looking up -/

section Lookup
variable {opened : List Site} {entries : List (Node.Key × Binding)} {t : ScopeTable}

theorem Tracks.exists_site (h : Tracks root opened entries t) {i : Nat} {scope : Scope}
    (hi : t.scopes[i]? = some scope) : ∃ s, opened[i]? = some s ∧ scope.node = s.node := by
  have hlt : i < opened.length := h.length_scopes ▸ (List.getElem?_eq_some_iff.1 hi).1
  obtain ⟨s, scope', hs, hscope', -, hat⟩ :=
    h.exists_scope (i := i) (n := opened[i].node) (by rw [List.getElem?_map, List.getElem?_eq_getElem hlt]; rfl)
  obtain rfl : scope = scope' := Option.some.inj (hi.symm.trans hscope')
  exact ⟨s, hs, hat.node⟩

theorem Tracks.openedBy?_eq_some (h : Tracks root opened entries t) {i : Nat} {key : Node.Key}
    (hi : t.openedBy? key = some i) : ∃ s, opened[i]? = some s ∧ s.node.key = key := by
  obtain ⟨⟨scope, j⟩, hfind, rfl⟩ := Option.map_eq_some_iff.1 hi
  have hkey := List.find?_some hfind
  have hmem := List.mem_reverse.1 (List.mem_of_find?_eq_some hfind)
  obtain ⟨s, hs, hnode⟩ := h.exists_site (List.mk_mem_zipIdx_iff_getElem?.1 hmem)
  exact ⟨s, hs, by simpa [hnode] using hkey⟩

theorem Tracks.openedBy?_eq_none (h : Tracks root opened entries t) {key : Node.Key}
    (hkey : ∀ s ∈ opened, s.node.key ≠ key) : t.openedBy? key = none := by
  cases hi : t.openedBy? key with
  | none => rfl
  | some i =>
    obtain ⟨s, hs, rfl⟩ := h.openedBy?_eq_some hi
    exact absurd rfl (hkey s (List.mem_of_getElem? hs))

theorem Tracks.openedBy?_of_mem (h : Tracks root opened entries t) {i : Nat} {s : Site} (hi : opened[i]? = some s) :
    t.openedBy? s.node.key = some i := by
  obtain ⟨s', scope, -, hscope, hnode, hat⟩ :=
    h.exists_scope (i := i) (n := s.node) (by rw [List.getElem?_map, hi]; rfl)
  cases hj : t.openedBy? s.node.key with
  | none =>
    rw [openedBy?, Option.map_eq_none_iff, List.find?_eq_none] at hj
    have hne := hj (scope, i) (List.mem_reverse.2 (List.mk_mem_zipIdx_iff_getElem?.2 hscope))
    simp [hat.node, hnode] at hne
  | some j =>
    obtain ⟨s'', hs'', hkey⟩ := h.openedBy?_eq_some hj
    rw [h.index_eq hi hs'' hkey.symm]

/-- The scope of a site with those around it. -/
theorem Tracks.points_chain (h : Tracks root opened entries t) {i : Nat} {s : Site} (hi : opened[i]? = some s)
    (hhead : (s.scopesWithin root).head? = some s.node) :
    Points (opened.map Site.node) (t.chain i) (s.scopesWithin root) := by
  have hnode : (opened.map Site.node)[i]? = some s.node := by rw [List.getElem?_map, hi]; rfl
  obtain ⟨s', scope, hs', hscope, -, hat⟩ := h.exists_scope hnode
  obtain rfl : s = s' := Option.some.inj (hi.symm.trans hs')
  rw [chain, hscope, ← List.cons_head?_tail (Option.mem_def.2 hhead)]
  exact .cons hnode hat.outer

/-- In the scopes that some indices stand for, a name is looked up among their declarations. -/
theorem Tracks.lookup_eq (h : Tracks root opened entries t) {is : List Nat} {ns : List Node}
    (hpoints : Points (opened.map Site.node) is ns) (name : String) :
    t.lookup is name = ns.findSome? fun n => Node.firstEntry n.key name entries := by
  rw [lookup]
  induction hpoints with
  | nil => rfl
  | @cons i n is ns hi _ ih =>
    obtain ⟨s, scope, -, hscope, rfl, hat⟩ := h.exists_scope hi
    rw [List.findSome?_cons, List.findSome?_cons, ih, hscope, Option.bind_some, hat.find]

end Lookup

/-- A node around others is the root, or a named one below it. -/
theorem Scoped.mem_parent (h : Scoped root) {p : Site} {c : Node} (hp : p ∈ root.preorder [])
    (hc : c ∈ p.node.children) : p = ⟨root, []⟩ ∨ p ∈ root.namedBelow := by
  have hnamed : p.node.named = true := by
    by_contra hnot
    have hleaf := h.tokens p.node (Node.node_mem_nodes hp) (Bool.eq_false_iff.2 hnot)
    rw [hleaf] at hc
    cases hc
  rw [Node.preorder_eq, List.mem_cons, List.mem_flatMap] at hp
  exact hp.imp_right fun hp => mem_namedBelow_iff.2 ⟨hp, hnamed⟩

theorem Scoped.openedBy?_of_not (h : Scoped root) (src : Bytes) {p : Site} (hp : p ∈ root.namedBelow)
    (hopens : ¬ p.node.opensScope = true) : (ofTree src root).openedBy? p.node.key = none := by
  apply (h.tracks_ofTree src).openedBy?_eq_none
  intro s hs hkey
  rcases List.mem_cons.1 hs with rfl | hs
  · exact h.kind_ne hp ((congrArg Node.Key.kind hkey).symm.trans h.program)
  · exact hopens (Node.opensScope_congr hkey ▸ (List.mem_filter.1 hs).2)

/-- The innermost scope around a site, with those around it. -/
theorem Scoped.points_scopeOf (h : Scoped root) (src : Bytes) {r : Site} (hr : r ∈ root.preorder []) :
    Points ((openedSites root).map Site.node) ((ofTree src root).chain ((ofTree src root).scopeOf r)) (r.scopes root) := by
  have htracks := h.tracks_ofTree src
  have hprogram : Points ((openedSites root).map Site.node) ((ofTree src root).chain 0) [root] := by
    have hchain := htracks.points_chain (i := 0) rfl (by rw [h.scopesWithin_program]; rfl)
    rwa [h.scopesWithin_program] at hchain
  -- outward from the site: a node around it opens its scope, or is passed over
  induction hancestors : r.ancestors generalizing r with
  | nil =>
    rw [scopeOf, Site.scopes, hancestors]
    exact hprogram
  | cons n outer ih =>
    rcases Node.exists_parent hr with rfl | ⟨p, hp, c, hc, rfl⟩
    · cases hancestors
    · obtain ⟨rfl, rfl⟩ := List.cons.inj hancestors
      rw [Site.scopes_child, scopeOf, hancestors, List.findSome?_cons]
      rcases h.mem_parent hp hc with rfl | hbelow
      · rw [htracks.openedBy?_of_mem (i := 0) (s := ⟨root, []⟩) rfl, h.scopesWithin_program]
        exact hprogram
      · by_cases hopens : p.node.opensScope = true
        · have hmem : p ∈ openedSites root := List.mem_cons_of_mem _ (List.mem_filter.2 ⟨hbelow, hopens⟩)
          obtain ⟨i, hi⟩ := List.mem_iff_getElem?.1 hmem
          rw [htracks.openedBy?_of_mem hi]
          exact htracks.points_chain hi (by rw [Site.scopesWithin_eq, if_pos hopens]; rfl)
        · rw [h.openedBy?_of_not src hbelow hopens, Site.scopesWithin_eq, if_neg hopens]
          exact ih hp rfl

/-- A name means its first declaration in the innermost scope around the site that has one. -/
theorem Scoped.resolve_eq (h : Scoped root) (src : Bytes) {r : Site} (hr : r ∈ root.preorder []) (name : String) :
    (ofTree src root).resolve r name = (r.scopes root).findSome? fun n => root.declared? src n.key name :=
  (h.tracks_ofTree src).lookup_eq (h.points_scopeOf src hr) name

end Table
end ScopeTable
end CallRedirect
