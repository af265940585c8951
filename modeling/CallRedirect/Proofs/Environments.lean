import CallRedirect.Proofs.Declaring
import CallRedirect.Proofs.RegrownScopes
import Mathlib.Data.List.Nodup

/-! # Lexical environments

The scope that a declaration belongs to, and the first declaration of a name in a scope, said of the tree alone. Looking up a
name in the table of scopes gives the first declaration in the innermost scope that has one.

* `Site.Belongs`: a declaration of a site belongs to the scope that a node opens.
* `Node.Declared`, `Node.FirstDeclared`: what a scope declares.
* `ScopeTable.resolve_lexical`: the declaration that a name has at a site. -/

namespace CallRedirect
set_option autoImplicit false

/-- A declaration at a site, with a given reach, belongs to the scope that a node opens. -/
def Site.Belongs (root : Node) (s : Site) : Reach → Node → Prop
  | .own, scope => scope = s.node
  | .around, scope => (s.scopes root).head? = some scope
  | .function, scope => (s.scopes root).find? Node.isFunctionScope = some scope
  | .program, scope => scope = root

/-- Some node declares the name for a scope. -/
def Node.Declared (src : Bytes) (root scope : Node) (name : String) : Prop :=
  ∃ s ∈ root.preorder [], ∃ d, s.node.Declares src d ∧ s.Belongs root d.reach scope ∧ d.name.text src = name

/-- The first declaration of a name for a scope, in document order of the declaring nodes. A node that declares the name
more than once does so in the order in which its declarations are listed. -/
def Node.FirstDeclared (src : Bytes) (root scope : Node) (name : String) (b : Binding) : Prop :=
  ∃ before s after earlier d later, root.preorder [] = before ++ s :: after ∧
    s.node.declarations src = earlier ++ d :: later ∧ s.Belongs root d.reach scope ∧ d.name.text src = name ∧
    b = ⟨name, d.kind, d.name⟩ ∧
    (∀ s' ∈ before, ∀ e, s'.node.Declares src e → s'.Belongs root e.reach scope → e.name.text src ≠ name) ∧
    ∀ e ∈ earlier, s.Belongs root e.reach scope → e.name.text src ≠ name

namespace ScopeTable
variable {src : Bytes} {root : Node}

/-! ## Scopes as nodes -/

theorem Scoped.mem_opened_of_scopes (h : Scoped root) {s : Site} (hs : s ∈ root.preorder []) {n : Node}
    (hn : n ∈ s.scopes root) : n ∈ (openedSites root).map Site.node := by
  have hpoints := h.points_scopeOf [] hs
  obtain ⟨i, hi⟩ := List.mem_iff_getElem?.1 hn
  obtain ⟨hlt, rfl⟩ := List.getElem?_eq_some_iff.1 hi
  have hlt' := hpoints.length_eq ▸ hlt
  exact List.mem_of_getElem? ((List.forall₂_iff_get.1 hpoints).2 i hlt' hlt)

/-- Of the nodes that open scopes, and the program, no two have the same key. -/
theorem Scoped.eq_of_key (h : Scoped root) {n m : Node} (hn : n ∈ (openedSites root).map Site.node)
    (hm : m ∈ (openedSites root).map Site.node) (hkey : n.key = m.key) : n = m := by
  obtain ⟨s, hs, rfl⟩ := List.mem_map.1 hn
  obtain ⟨r, hr, rfl⟩ := List.mem_map.1 hm
  rw [List.inj_on_of_nodup_map h.distinct_opened hs hr hkey]

/-- A node that declares something is not a token. -/
theorem Scoped.declaring_mem (h : Scoped root) {s : Site} (hs : s ∈ root.preorder []) {d : Declaration}
    (hd : d ∈ s.node.declarations src) : s ∈ root.namedBelow := by
  cases hchildren : s.node.children with
  | nil =>
    rw [Node.declarations_of_leaf src hchildren] at hd
    cases hd
  | cons c cs =>
    obtain rfl | hbelow := h.mem_parent hs (hchildren ▸ List.mem_cons_self)
    · rw [Node.declarations_program src h.program] at hd
      cases hd
    · exact hbelow

theorem Scoped.find?_scopes (h : Scoped root) (s : Site) :
    (s.scopes root).find? Node.isFunctionScope = some (((s.scopes root).find? Node.isFunctionScope).getD root) := by
  have hroot : root.isFunctionScope = true := by simp [Node.isFunctionScope, Node.scopeKind?_program h.program]
  have hfound : ((s.scopes root).find? Node.isFunctionScope).isSome = true := by
    rw [List.find?_isSome]
    exact ⟨root, by simp [Site.scopes], hroot⟩
  obtain ⟨n, hn⟩ := Option.isSome_iff_exists.1 hfound
  rw [hn, Option.getD_some]

/-- A declaration belongs to exactly one scope. -/
theorem Scoped.belongs_iff (h : Scoped root) {s : Site} {d : Declaration} (hd : d ∈ s.node.declarations src)
    (scope : Node) : s.Belongs root d.reach scope ↔ s.reached root d.reach = scope := by
  cases hreach : d.reach with
  | own =>
    have hopens := (Node.declares_iff.2 hd).opensScope hreach
    rw [Site.Belongs, Site.reached, Site.scopesWithin_eq, if_pos hopens, List.headD_cons, eq_comm]
  | around =>
    rw [Site.Belongs, Site.reached]
    cases hscopes : s.scopes root with
    | nil => simp [Site.scopes] at hscopes
    | cons n ns => simp
  | function => rw [Site.Belongs, Site.reached, h.find?_scopes, Option.some_inj, Option.getD_some]
  | program => rw [Site.Belongs, Site.reached, eq_comm]

theorem Scoped.reached_mem_opened (h : Scoped root) {s : Site} (hs : s ∈ root.preorder []) {d : Declaration}
    (hd : d ∈ s.node.declarations src) : s.reached root d.reach ∈ (openedSites root).map Site.node := by
  have hbelongs := (h.belongs_iff hd _).2 rfl
  generalize s.reached root d.reach = scope at hbelongs ⊢
  cases hreach : d.reach with
  | own =>
    rw [hreach] at hbelongs
    have hopens := (Node.declares_iff.2 hd).opensScope hreach
    rw [(hbelongs : scope = s.node)]
    exact List.mem_map_of_mem (List.mem_cons_of_mem _ (List.mem_filter.2 ⟨h.declaring_mem hs hd, hopens⟩))
  | around =>
    rw [hreach] at hbelongs
    exact h.mem_opened_of_scopes hs (List.mem_of_head? hbelongs)
  | function =>
    rw [hreach] at hbelongs
    exact h.mem_opened_of_scopes hs (List.mem_of_find?_eq_some hbelongs)
  | program =>
    rw [hreach] at hbelongs
    rw [(hbelongs : scope = root)]
    exact List.mem_cons_self

/-- A declaration is entered under the key of the scope it belongs to. -/
theorem Scoped.key_reached_iff (h : Scoped root) {s : Site} (hs : s ∈ root.preorder []) {d : Declaration}
    (hd : d ∈ s.node.declarations src) {scope : Node} (hscope : scope ∈ (openedSites root).map Site.node) :
    (s.reached root d.reach).key = scope.key ↔ s.Belongs root d.reach scope := by
  rw [h.belongs_iff hd]
  exact ⟨h.eq_of_key (h.reached_mem_opened hs hd) hscope, fun heq => heq ▸ rfl⟩

/-! ## First declarations -/

theorem flatMap_filter_of_nil {α β : Type} {l : List α} {p : α → Bool} {f : α → List β}
    (h : ∀ a ∈ l, p a = false → f a = []) : (l.filter p).flatMap f = l.flatMap f := by
  induction l with
  | nil => rfl
  | cons a l ih =>
    have ih := ih fun b hb => h b (List.mem_cons_of_mem a hb)
    cases hp : p a with
    | true => rw [List.filter_cons_of_pos hp, List.flatMap_cons, List.flatMap_cons, ih]
    | false => rw [List.filter_cons_of_neg (by simp [hp]), List.flatMap_cons, h a List.mem_cons_self hp, ih, List.nil_append]

/-- The root and the tokens declare nothing. -/
theorem Scoped.entries_eq (h : Scoped root) (src : Bytes) :
    root.entries src = (root.preorder []).flatMap (Site.entries src root) := by
  have hroot : Site.entries src root ⟨root, []⟩ = [] := by rw [Site.entries, Node.declarations_program src h.program]; rfl
  rw [Node.entries, Node.namedBelow, Node.preorder_eq, List.flatMap_cons, hroot, List.nil_append]
  refine flatMap_filter_of_nil fun s hs hnamed => ?_
  have hs : s ∈ root.preorder [] := by rw [Node.preorder_eq]; exact List.mem_cons_of_mem _ hs
  rw [Site.entries, Node.declarations_of_leaf src (h.tokens _ (Node.node_mem_nodes hs) hnamed), List.map_nil]

theorem Scoped.declared?_eq (h : Scoped root) (src : Bytes) (key : Node.Key) (name : String) :
    root.declared? src key name =
      ((root.preorder []).findSome? fun s => (s.node.declarations src).find? fun d =>
        (s.reached root d.reach).key == key && d.name.text src == name).map
        fun d => ⟨d.name.text src, d.kind, d.name⟩ := by
  rw [Node.declared?, Node.firstEntry, h.entries_eq, List.find?_flatMap, List.map_findSome?, List.map_findSome?]
  congr 1
  funext s
  simp only [Function.comp_apply, Site.entries, List.find?_map, Option.map_map]
  rfl

section Declared
variable (h : Scoped root) {scope : Node} (hscope : scope ∈ (openedSites root).map Site.node)
include h hscope

theorem Scoped.enters_iff {s : Site} (hs : s ∈ root.preorder []) {d : Declaration} (hd : d ∈ s.node.declarations src)
    (name : String) : ((s.reached root d.reach).key == scope.key && d.name.text src == name) = true ↔
      s.Belongs root d.reach scope ∧ d.name.text src = name := by
  rw [Bool.and_eq_true, beq_iff_eq, beq_iff_eq, h.key_reached_iff hs hd hscope]

theorem Scoped.find?_eq_none_iff (src : Bytes) {s : Site} (hs : s ∈ root.preorder []) (name : String) :
    ((s.node.declarations src).find? fun d => (s.reached root d.reach).key == scope.key && d.name.text src == name) = none ↔
      ∀ d, s.node.Declares src d → s.Belongs root d.reach scope → d.name.text src ≠ name := by
  rw [List.find?_eq_none]
  refine forall_congr' fun d => ?_
  rw [← Node.declares_iff]
  refine forall_congr' fun hd => ?_
  rw [h.enters_iff hscope hs (Node.declares_iff.1 hd), not_and]

theorem Scoped.find?_eq_some_iff (src : Bytes) {s : Site} (hs : s ∈ root.preorder []) (name : String) (d : Declaration) :
    ((s.node.declarations src).find? fun d => (s.reached root d.reach).key == scope.key && d.name.text src == name) =
        some d ↔
      ∃ earlier later, s.node.declarations src = earlier ++ d :: later ∧ s.Belongs root d.reach scope ∧
        d.name.text src = name ∧ ∀ e ∈ earlier, s.Belongs root e.reach scope → e.name.text src ≠ name := by
  rw [List.find?_eq_some_iff_append, ← exists_and_left]
  refine exists_congr fun earlier => ?_
  rw [← exists_and_left]
  refine exists_congr fun later => ?_
  rw [and_left_comm]
  refine and_congr_right fun hdeclarations => ?_
  have hmem {e : Declaration} (he : e ∈ earlier ++ d :: later) : e ∈ s.node.declarations src := hdeclarations ▸ he
  rw [h.enters_iff hscope hs (hmem (List.mem_append_right _ List.mem_cons_self)), and_assoc]
  refine and_congr_right fun _ => and_congr_right fun _ => forall₂_congr fun e he => ?_
  rw [Bool.not_eq_true', ← Bool.not_eq_true, h.enters_iff hscope hs (hmem (List.mem_append_left _ he)), not_and]

theorem Scoped.declared?_eq_none_iff (src : Bytes) (name : String) :
    root.declared? src scope.key name = none ↔ ¬ root.Declared src scope name := by
  rw [h.declared?_eq, Option.map_eq_none_iff, List.findSome?_eq_none_iff]
  constructor
  · rintro hnone ⟨s, hs, d, hd, hbelongs, hname⟩
    exact (h.find?_eq_none_iff hscope src hs name).1 (hnone s hs) d hd hbelongs hname
  · intro hnot s hs
    refine (h.find?_eq_none_iff hscope src hs name).2 fun d hd hbelongs hname => hnot ?_
    exact ⟨s, hs, d, hd, hbelongs, hname⟩

theorem Scoped.declared?_eq_some_iff (src : Bytes) (name : String) (b : Binding) :
    root.declared? src scope.key name = some b ↔ root.FirstDeclared src scope name b := by
  rw [h.declared?_eq, Option.map_eq_some_iff]
  constructor
  · rintro ⟨d, hd, rfl⟩
    obtain ⟨before, s, after, hsplit, hd, hbefore⟩ := List.findSome?_eq_some_iff.1 hd
    have hs : s ∈ root.preorder [] := by simp [hsplit]
    obtain ⟨earlier, later, hdeclarations, hbelongs, rfl, hearlier⟩ := (h.find?_eq_some_iff hscope src hs name d).1 hd
    refine ⟨before, s, after, earlier, d, later, hsplit, hdeclarations, hbelongs, rfl, rfl, fun s' hs' => ?_, hearlier⟩
    exact (h.find?_eq_none_iff hscope src (by simp [hsplit, hs']) _).1 (hbefore s' hs')
  · rintro ⟨before, s, after, earlier, d, later, hsplit, hdeclarations, hbelongs, rfl, rfl, hbefore, hearlier⟩
    have hs : s ∈ root.preorder [] := by simp [hsplit]
    refine ⟨d, List.findSome?_eq_some_iff.2 ⟨before, s, after, hsplit, ?_, fun s' hs' => ?_⟩, rfl⟩
    · exact (h.find?_eq_some_iff hscope src hs _ d).2 ⟨earlier, later, hdeclarations, hbelongs, rfl, hearlier⟩
    · exact (h.find?_eq_none_iff hscope src (by simp [hsplit, hs']) _).2 (hbefore s' hs')

end Declared

/-! ## The meaning of a name -/

theorem Scoped.resolve_eq_some_iff (h : Scoped root) (src : Bytes) {r : Site} (hr : r ∈ root.preorder []) (name : String)
    (b : Binding) : (ofTree src root).resolve r name = some b ↔
      ∃ inner scope outer, r.scopes root = inner ++ scope :: outer ∧ (∀ n ∈ inner, ¬ root.Declared src n name) ∧
        root.FirstDeclared src scope name b := by
  rw [h.resolve_eq src hr, List.findSome?_eq_some_iff]
  refine exists_congr fun inner => exists_congr fun scope => exists_congr fun outer => ?_
  refine and_congr_right fun hsplit => ?_
  have hopened {n : Node} (hn : n ∈ inner ++ scope :: outer) := h.mem_opened_of_scopes hr (hsplit ▸ hn)
  rw [and_comm, h.declared?_eq_some_iff (hopened (by simp))]
  refine and_congr_left fun _ => forall₂_congr fun n hn => ?_
  exact h.declared?_eq_none_iff (hopened (List.mem_append_left _ hn)) src name

theorem Scoped.resolve_eq_none_iff (h : Scoped root) (src : Bytes) {r : Site} (hr : r ∈ root.preorder []) (name : String) :
    (ofTree src root).resolve r name = none ↔ ∀ n ∈ r.scopes root, ¬ root.Declared src n name := by
  rw [h.resolve_eq src hr, List.findSome?_eq_none_iff]
  exact forall₂_congr fun n hn => h.declared?_eq_none_iff (h.mem_opened_of_scopes hr hn) src name

/-- A name means its first declaration in the innermost scope around the site to which a declaration of the name belongs,
and nothing if there is no such scope. Where in its scopes the site stands does not matter. -/
theorem resolve_lexical (h : Scoped root) (src : Bytes) {r : Site} (hr : r ∈ root.preorder []) (name : String) :
    (∀ b, (ofTree src root).resolve r name = some b ↔
      ∃ inner scope outer, r.scopes root = inner ++ scope :: outer ∧ (∀ n ∈ inner, ¬ root.Declared src n name) ∧
        root.FirstDeclared src scope name b) ∧
    ((ofTree src root).resolve r name = none ↔ ∀ n ∈ r.scopes root, ¬ root.Declared src n name) ∧
    ∀ r' ∈ root.preorder [], r'.scopes root = r.scopes root →
      (ofTree src root).resolve r' name = (ofTree src root).resolve r name := by
  refine ⟨h.resolve_eq_some_iff src hr name, h.resolve_eq_none_iff src hr name, fun r' hr' hscopes => ?_⟩
  rw [h.resolve_eq src hr, h.resolve_eq src hr', hscopes]

/-- The tree of `function f(x) { y; { var y; let x; } }`. -/
def hoisting : Node :=
  ⟨"program", true, false, 0, 38, none,
    [⟨"function_declaration", true, false, 0, 38, none,
      [⟨"identifier", true, false, 9, 10, some "name", []⟩,
        ⟨"formal_parameters", true, false, 10, 13, some "parameters", [⟨"identifier", true, false, 11, 12, none, []⟩]⟩,
        ⟨"statement_block", true, false, 14, 38, some "body",
          [⟨"expression_statement", true, false, 16, 18, none, [⟨"identifier", true, false, 16, 17, none, []⟩]⟩,
            ⟨"statement_block", true, false, 19, 36, none,
              [⟨"variable_declaration", true, false, 21, 27, none,
                [⟨"variable_declarator", true, false, 25, 26, none,
                  [⟨"identifier", true, false, 25, 26, some "name", []⟩]⟩]⟩,
                ⟨"lexical_declaration", true, false, 28, 34, none,
                  [⟨"let", false, false, 28, 31, some "kind", []⟩,
                    ⟨"variable_declarator", true, false, 32, 33, none,
                      [⟨"identifier", true, false, 32, 33, some "name", []⟩]⟩]⟩]⟩]⟩]⟩]⟩

/-- The `var` in the inner block is meant before that block. -/
theorem resolve_lexical_hoisting :
    Scoped hoisting ∧ ∃ r ∈ hoisting.preorder [], r.node.start = 16 ∧
      ∃ b, (ofTree (Bytes.ofString "function f(x) \x7b y; \x7b var y; let x; \x7d \x7d") hoisting).resolve r "y" =
          some b ∧ b.node.start = 25 ∧ ∃ inner scope outer, r.scopes hoisting = inner ++ scope :: outer ∧
          (∀ n ∈ inner, ¬ hoisting.Declared (Bytes.ofString "function f(x) \x7b y; \x7b var y; let x; \x7d \x7d") n "y") ∧
          hoisting.FirstDeclared (Bytes.ofString "function f(x) \x7b y; \x7b var y; let x; \x7d \x7d") scope "y" b := by
  have hscoped : Scoped hoisting := by decide +kernel
  have hfound : ∃ r ∈ hoisting.preorder [], r.node.start = 16 ∧
      ((ofTree (Bytes.ofString "function f(x) \x7b y; \x7b var y; let x; \x7d \x7d") hoisting).resolve r "y").map
        (fun b => b.node.start) = some 25 := by decide +kernel
  obtain ⟨r, hr, hstart, hb⟩ := hfound
  obtain ⟨b, hb, hdeclared⟩ := Option.map_eq_some_iff.1 hb
  exact ⟨hscoped, r, hr, hstart, b, hb, hdeclared, ((resolve_lexical hscoped _ hr "y").1 b).1 hb⟩

end ScopeTable
end CallRedirect
