import CallRedirect.Proofs.NewImport

/-! # The text after an import was ensured

In a file as it was read, ensuring an import either changes nothing, or changes one declaration and nothing else, or
puts one in at one place, or fails because several declarations import values from the module.

* `Document.valueImports`: the declarations of a file that import values from a module.
* `Document.renderBytes_merge`: the text with one more entry in a declaration.
* `Session.ensure_text`: the text in all cases. -/

namespace CallRedirect
set_option autoImplicit false

namespace Document

/-! ## The imports of a file -/

/-- The declaration that an item spells. -/
def Item.import? (src : Bytes) (i : Item) : Option ImportDecl :=
  if i.node.kind == "import_statement" then ImportDecl.ofNode? src i.node else none

/-- The declaration that an item spells, if it imports values from a module. -/
def Item.valueImport? (src : Bytes) (origin : String) (i : Item) : Option ImportDecl :=
  (i.import? src).filter fun decl => decl.origin == origin && !decl.typeOnly

/-- The declarations of a file that import values from a module. -/
def valueImports (src : Bytes) (root : Node) (origin : String) : List (Item × ImportDecl) :=
  (items root).filterMap fun i => (i.valueImport? src origin).map fun decl => (i, decl)

theorem import?_statement (src : Bytes) (g : Group) : (g.statement src).import? = g.item.import? src := by
  rw [Group.statement, Item.statement, Item.import?, Statement.import?]
  cases g.item.node.kind == "import_statement" with
  | false => rfl
  | true => cases ImportDecl.ofNode? src g.item.node <;> rfl

theorem import?_comment {i : Item} (src : Bytes) (h : i.isComment = true) : i.import? src = none := by
  rw [Item.isComment] at h
  rw [Item.import?, if_neg]
  intro hkind
  rw [beq_iff_eq.1 hkind] at h
  exact absurd h (by decide)

section ValueImports
variable {src : Bytes} {root : Node} {origin : String}

/-- The groups of those declarations, with their indices. -/
def valueGroups (src : Bytes) (root : Node) (origin : String) : List ((Group × Nat) × ImportDecl) :=
  (outline src root).groups.zipIdx.filterMap fun p => (p.1.item.valueImport? src origin).map fun decl => (p, decl)

theorem mem_valueGroups {p : (Group × Nat) × ImportDecl} (h : p ∈ valueGroups src root origin) :
    (outline src root).groups[p.1.2]? = some p.1.1 := by
  obtain ⟨q, hq, hp⟩ := List.mem_filterMap.1 h
  obtain ⟨decl, -, rfl⟩ := Option.map_eq_some_iff.1 hp
  exact List.mem_zipIdx_iff_getElem?.1 hq

theorem valueImportsFrom_ofItems (src : Bytes) (root : Node) (origin : String) :
    (ofItems src root).valueImportsFrom origin = (valueGroups src root origin).map fun p => (p.1.2, p.2) := by
  rw [valueImportsFrom, importsFrom, imports, statements_ofItems, List.zipIdx_map, List.filterMap_map,
    List.filter_filter, List.filter_filterMap, valueGroups, List.map_filterMap]
  apply List.filterMap_congr
  intro p _
  show Option.filter _ ((p.1.statement src).import?.map fun decl => (p.2, decl)) = _
  rw [import?_statement, Item.valueImport?]
  cases p.1.item.import? src with
  | none => rfl
  | some decl =>
    cases h : decl.origin == origin <;> cases h' : decl.typeOnly <;> simp [h, h', Option.filter]

theorem lineOf?_ofItems {j : Nat} {g : Group} (hg : (outline src root).groups[j]? = some g) :
    (ofItems src root).lineOf? j = some (src.line g.item.node.start) := by
  rw [lineOf?, statements_ofItems, List.getElem?_map, hg, source_ofItems]
  rfl

theorem lines_valueGroups {ps : List ((Group × Nat) × ImportDecl)}
    (h : ∀ p ∈ ps, (outline src root).groups[p.1.2]? = some p.1.1) :
    (ps.map fun p => (p.1.2, p.2)).filterMap (fun p => (ofItems src root).lineOf? p.1) =
      (ps.map fun p => (p.1.1.item, p.2)).map fun p => src.line p.1.node.start := by
  rw [List.filterMap_map, List.map_map, ← List.filterMap_eq_map]
  apply List.filterMap_congr
  intro p hp
  exact lineOf?_ofItems (h p hp)

theorem filterMap_items {α : Type} (src : Bytes) (root : Node) {f : Item → Option α}
    (hf : ∀ i, i.isComment = true → f i = none) :
    (items root).filterMap f = (outline src root).groups.filterMap fun g => f g.item := by
  have hcomments (is : List Item) (h : ∀ i ∈ is, i.isComment = true) : is.filterMap f = [] := by
    rw [List.filterMap_eq_nil_iff]
    exact fun i hi => hf i (h i hi)
  have hgroups (gs : List Group) (h : ∀ g ∈ gs, g.Sorted) :
      (gs.flatMap Group.items).filterMap f = gs.filterMap fun g => f g.item := by
    induction gs with
    | nil => rfl
    | cons g gs ih =>
      have hg := h g List.mem_cons_self
      rw [List.flatMap_cons, List.filterMap_append, ih fun g' hg' => h g' (List.mem_cons_of_mem g hg'), Group.items,
        List.filterMap_append, List.filterMap_cons, List.filterMap_cons, hcomments _ hg.leading,
        hcomments _ hg.trailing]
      cases f g.item <;> rfl
  rw [← items_outline src root, Outline.items, List.filterMap_append,
    hcomments _ (fun i hi => isComment_of_mem_header hi), hgroups _ (sorted_outline src root), List.nil_append]

theorem valueImports_eq (src : Bytes) (root : Node) (origin : String) :
    valueImports src root origin = (valueGroups src root origin).map fun p => (p.1.1.item, p.2) := by
  have hzip : (outline src root).groups.zipIdx.map Prod.fst = (outline src root).groups := List.zipIdx_map_fst 0 _
  rw [valueImports, filterMap_items src root, ← hzip, List.filterMap_map, valueGroups, List.map_filterMap]
  · apply List.filterMap_congr
    intro p _
    rw [Option.map_map]
    rfl
  · intro i hi
    rw [Item.valueImport?, import?_comment src hi]
    rfl

end ValueImports

/-! ## One statement written anew -/

section Rewritten
variable {src : Bytes} {root : Node}

/-- All items as they stand in the file, but for one. -/
def Item.rewritten (src : Bytes) (i : Item) (text : Bytes) (j : Item) : Bytes :=
  if j.ordinal = i.ordinal then text else j.bytes src

theorem rewritten_of_ne {i j : Item} (text : Bytes) (hi : i ∈ items root) (hj : j ∈ items root) (hne : j ≠ i) :
    i.rewritten src text j = j.bytes src := by
  rw [Item.rewritten, if_neg]
  intro hordinal
  have hi := mem_items_iff.1 hi
  have hj := mem_items_iff.1 hj
  rw [hordinal, hi] at hj
  exact hne (by cases i; cases j; simp_all)

theorem laid_congr {f g : Item → Bytes} {is : List Item} (h : ∀ i ∈ is, f i = g i) (pos : Nat) :
    laid src f pos is = laid src g pos is := by
  induction is generalizing pos with
  | nil => rfl
  | cons i is ih =>
    rw [laid, laid, h i List.mem_cons_self, ih fun j hj => h j (List.mem_cons_of_mem i hj)]

theorem inOrder_stopAfter {pos hi : Nat} {is js : List Item} (h : Node.InOrder pos hi ((is ++ js).map Item.node)) :
    Node.InOrder (stopAfter pos is) hi (js.map Item.node) := by
  induction is generalizing pos with
  | nil => exact h
  | cons i is ih => exact ih h.tail

theorem laid_rewritten {hi : Nat} {is js : List Item} {i : Item} {write : Item → Bytes}
    (horder : Node.InOrder 0 hi ((is ++ i :: js).map Item.node)) (hwrite : ∀ j ∈ is ++ js, write j = j.bytes src) :
    laid src write 0 (is ++ i :: js) ++ src.drop (stopAfter 0 (is ++ i :: js)) =
      src.take i.node.start ++ write i ++ src.drop i.node.stop := by
  have hupper : laid src write 0 is = src.slice 0 (stopAfter 0 is) := by
    rw [laid_congr fun j hj => hwrite j (List.mem_append_left js hj)]
    exact laid_bytes (horder.sublist ((List.sublist_append_left _ _).map Item.node))
  have hrest := inOrder_stopAfter horder
  have hspan := hrest.inside i.node List.mem_cons_self
  have hlower : laid src write i.node.stop js = src.slice i.node.stop (stopAfter i.node.stop js) := by
    rw [laid_congr fun j hj => hwrite j (List.mem_append_right is hj)]
    exact laid_bytes hrest.tail
  have htake : src.slice 0 (stopAfter 0 is) ++ src.slice (stopAfter 0 is) i.node.start = src.take i.node.start :=
    src.slice_append_slice (Nat.zero_le _) hspan.1
  rw [laid_append, stopAfter_append, laid, stopAfter, hupper, hlower]
  simp only [List.append_assoc]
  rw [src.slice_append_drop (le_stopAfter hrest.tail), ← List.append_assoc, htake]

theorem printsItems_modify {f : Statement → Statement} {j : Nat} {g : Group} {text : Bytes}
    (hg : (outline src root).groups[j]? = some g) (hf : g.PrintsAs src text (f (g.statement src))) :
    ((ofItems src root).modify j f).PrintsItems (g.item.rewritten src text) := by
  have hgroup := List.mem_of_getElem? hg
  have hmem := (sublist_groups src root).subset (List.mem_map_of_mem hgroup)
  have hordinals := (pairwise_ordinal_items root).sublist (sublist_groups src root)
  rw [List.pairwise_map, List.pairwise_iff_getElem] at hordinals
  obtain ⟨hj, rfl⟩ := List.getElem?_eq_some_iff.1 hg
  rw [modify, ofItems_eq]
  refine ⟨⟨rfl, rfl⟩, rfl, ?_, ?_⟩
  · rw [List.forall₂_iff_get]
    refine ⟨by simp, ?_⟩
    intro k hk hk'
    simp only [List.get_eq_getElem, List.getElem_modify, List.getElem_map]
    rcases eq_or_ne j k with rfl | hne
    · rw [if_pos rfl, Item.rewritten, if_pos rfl]
      exact hf
    · have hitem : ((outline src root).groups[k]).item.ordinal ≠ ((outline src root).groups[j]).item.ordinal := by
        rcases Nat.lt_or_gt_of_ne hne with hlt | hlt
        · exact (hordinals j k hj hk' hlt).ne'
        · exact (hordinals k j hk' hj hlt).ne
      rw [if_neg hne, Item.rewritten, if_neg hitem]
      exact printsAs_statement src _
  · intro i hi hcomment
    apply rewritten_of_ne text hmem hi
    rintro rfl
    rw [(sorted_outline src root _ hgroup).item] at hcomment
    cases hcomment

theorem renderBytes_modify {f : Statement → Statement} {j : Nat} {g : Group} {text : Bytes}
    (hg : (outline src root).groups[j]? = some g) (hf : g.PrintsAs src text (f (g.statement src)))
    (horder : Node.InOrder 0 src.length root.children) :
    ((ofItems src root).modify j f).renderBytes =
      .ok (src.take g.item.node.start ++ text ++ src.drop g.item.node.stop) := by
  have hmem := (sublist_groups src root).subset (List.mem_map_of_mem (List.mem_of_getElem? hg))
  have hordinals := pairwise_ordinal_items root
  obtain ⟨is, js, hitems⟩ := List.append_of_mem hmem
  rw [← map_node_items, hitems] at horder
  have hothers : ∀ i ∈ is ++ js, g.item.rewritten src text i = i.bytes src := by
    intro i hi
    rw [hitems, List.pairwise_append, List.pairwise_cons] at hordinals
    rw [Item.rewritten, if_neg]
    rcases List.mem_append.1 hi with hi | hi
    · exact (hordinals.2.2 i hi g.item List.mem_cons_self).ne
    · exact (hordinals.2.1.1 i hi).ne'
  have hself : g.item.rewritten src text g.item = text := if_pos rfl
  have hsource : ((ofItems src root).modify j f).source = src := source_ofItems src root
  have htree : ((ofItems src root).modify j f).root = root := root_ofItems src root
  rw [(printsItems_modify hg hf).renderBytes, hsource, htree, hitems, laid_rewritten horder hothers, hself]

theorem printsAs_merge (src : Bytes) (g : Group) (decl : ImportDecl) (spec : Specifier) :
    g.PrintsAs src (Bytes.ofString (decl.merge spec).print) ((g.statement src).merge decl spec) :=
  ⟨rfl, rfl, rfl, rfl⟩

end Rewritten

/-! ## Texts -/

section IsText
variable {code : String} {root : Node}

/-- The items of a file are cut between characters. -/
def Bounded (code : String) (is : List Item) : Prop :=
  ∀ i ∈ is, Bytes.Boundary code i.node.start ∧ Bytes.Boundary code i.node.stop

theorem isText_lineGap {i j : Item} (hi : Bytes.Boundary code i.node.stop) (hj : Bytes.Boundary code j.node.start) :
    (i.lineGap (Bytes.ofString code) j).IsText := by
  rw [Item.lineGap]
  split
  · exact Bytes.isText_slice hi hj
  · exact Bytes.isText_newline _

theorem isText_onLines {i : Item} {js : List Item} (h : Bounded code (i :: js)) :
    (onLines (Bytes.ofString code) i js).IsText := by
  induction js generalizing i with
  | nil => exact Bytes.isText_nil
  | cons j js ih =>
    have hi := h i List.mem_cons_self
    have hj := h j (List.mem_cons_of_mem i List.mem_cons_self)
    have hrest := ih fun k hk => h k (List.mem_cons_of_mem i hk)
    exact ((isText_lineGap hi.2 hj.1).append (Bytes.isText_slice hj.1 hj.2)).append hrest

theorem boundary_stopAfter {i : Item} {js : List Item} (h : Bounded code (i :: js)) :
    Bytes.Boundary code (stopAfter i.node.stop js) := by
  induction js generalizing i with
  | nil => exact (h i List.mem_cons_self).2
  | cons j js ih => exact ih fun k hk => h k (List.mem_cons_of_mem i hk)

theorem isText_tailBelow {unhooked below : List Item} (h : Bounded code below) :
    (tailBelow (Bytes.ofString code) unhooked below).IsText := by
  cases below with
  | nil => exact Bytes.isText_nil
  | cons j js =>
    have hj := h j List.mem_cons_self
    rw [tailBelow]
    split
    · exact Bytes.isText_drop hj.1
    · have hlines : Bounded code (j :: js.take (unhooked.length + 1)) :=
        fun k hk => h k ((List.take_sublist _ js).cons_cons j |>.subset hk)
      exact ((Bytes.isText_slice hj.1 hj.2).append (isText_onLines hlines)).append
        (Bytes.isText_drop (boundary_stopAfter hlines))

theorem isText_insertedText {text tail : Bytes} {upper lower : Option Item} (htext : text.IsText) (htail : tail.IsText)
    (hupper : ∀ i ∈ upper, Bytes.Boundary code i.node.stop) (hlower : ∀ j ∈ lower, Bytes.Boundary code j.node.start) :
    (insertedText (Bytes.ofString code) text upper lower tail).IsText := by
  have hnewline := Bytes.isText_newline (Bytes.ofString code)
  cases upper with
  | none =>
    cases lower with
    | none => exact htext.append (Bytes.isText_ofString code)
    | some j => exact (((Bytes.isText_take (hlower j rfl)).append htext).append hnewline).append htail
  | some i =>
    have habove := ((Bytes.isText_take (hupper i rfl)).append hnewline).append htext
    cases lower with
    | none => exact habove.append (Bytes.isText_drop (hupper i rfl))
    | some j => exact (habove.append (isText_lineGap (hupper i rfl) (hlower j rfl))).append htail

theorem isText_importedText {text : Bytes} (htext : text.IsText) (h : Bounded code (items root)) :
    (importedText (Bytes.ofString code) root text).IsText := by
  obtain ⟨below, hitems⟩ := exists_items_below (Bytes.ofString code) root
  have hbelow (k : Nat) : Bounded code ((items root).drop k) := fun i hi => h i (List.mem_of_mem_drop hi)
  apply isText_insertedText htext (isText_tailBelow (hbelow _))
  · intro i hi
    have hmem : i ∈ items root := hitems ▸ List.mem_append_left below (List.mem_of_getLast? hi)
    exact (h i hmem).2
  · intro j hj
    exact (hbelow _ j (List.mem_of_head? hj)).1

end IsText

end Document

/-! ## All cases -/

namespace Session

/-- Ensuring an import succeeds, and the document then prints the given bytes. -/
def Ensures (r : Request) (changed : Bool) (bytes : Bytes) (s : Session) : Prop :=
  ∃ s' text, s.ensure r = .ok (changed, s') ∧ s'.document.render = .ok text ∧ Bytes.ofString text = bytes

theorem ensures_of_renderBytes {r : Request} {changed : Bool} {bytes : Bytes} {s s' : Session}
    (h : s.ensure r = .ok (changed, s')) (hbytes : s'.document.renderBytes = .ok bytes) (htext : bytes.IsText) :
    s.Ensures r changed bytes := by
  obtain ⟨text, hdecode, htext⟩ := htext.decode
  refine ⟨s', text, h, ?_, htext⟩
  rw [Document.render, hbytes]
  exact hdecode

section Cases
variable {code : String} {root : Node} {r : Request} {s : Session}

theorem ensures_inserted (hs : s.document = .ofItems (Bytes.ofString code) root)
    (horder : Node.InOrder 0 (Bytes.ofString code).length root.children)
    (hbounded : Document.Bounded code (Document.items root)) (h : s.ensure r = .ok (true, s.insertImport r)) :
    s.Ensures r true (Document.importedText (Bytes.ofString code) root (Bytes.ofString r.declaration.print)) :=
  ensures_of_renderBytes h (renderBytes_insertImport r hs horder)
    (Document.isText_importedText (Bytes.isText_ofString _) hbounded)

theorem ensures_unchanged {action : String} (hs : s.document = .ofItems (Bytes.ofString code) root)
    (horder : Node.InOrder 0 (Bytes.ofString code).length root.children)
    (h : s.ensure r = .ok (false, s.noteImport action r)) : s.Ensures r false (Bytes.ofString code) := by
  refine ensures_of_renderBytes h ?_ (Bytes.isText_ofString code)
  show s.document.renderBytes = _
  rw [hs]
  exact Document.renderBytes_ofItems horder

theorem ensures_merged {j : Nat} {g : Document.Group} {decl : ImportDecl}
    (hs : s.document = .ofItems (Bytes.ofString code) root)
    (horder : Node.InOrder 0 (Bytes.ofString code).length root.children)
    (hbounded : Document.Bounded code (Document.items root))
    (hg : (Document.outline (Bytes.ofString code) root).groups[j]? = some g)
    (h : s.ensure r = .ok (true, s.mergeInto r j decl)) :
    s.Ensures r true ((Bytes.ofString code).take g.item.node.start ++ Bytes.ofString (decl.merge r.specifier).print ++
      (Bytes.ofString code).drop g.item.node.stop) := by
  have hitem := (Document.sublist_groups (Bytes.ofString code) root).subset
    (List.mem_map_of_mem (List.mem_of_getElem? hg))
  have hcut := hbounded g.item hitem
  refine ensures_of_renderBytes h ?_
    (((Bytes.isText_take hcut.1).append (Bytes.isText_ofString _)).append (Bytes.isText_drop hcut.2))
  show (s.document.modify j fun st => st.merge decl r.specifier).renderBytes = _
  rw [hs]
  exact Document.renderBytes_modify hg (Document.printsAs_merge _ g decl r.specifier) horder

end Cases

/-- What ensuring an import makes of the text of a file. Several imports of values from the module are a failure. A
declaration that imports the name as a value stays as it is. Any other one that is not a star import takes one more
entry, and nothing else changes. Else a new declaration stands between two items of the file. -/
theorem ensure_text (dialect : Dialect) (code : String) (root : Node) (r : Request) (hfault : root.firstFaulty? = none)
    (horder : Node.InOrder 0 (Bytes.ofString code).length root.children)
    (hboundaries : ∀ n ∈ root.children, Bytes.Boundary code n.start ∧ Bytes.Boundary code n.stop) :
    ∃ d, Document.ofTree dialect (Bytes.ofString code) root = .ok d ∧ ∀ s : Session, s.document = d →
      match Document.valueImports (Bytes.ofString code) root r.origin with
      | [] => s.Ensures r true (Document.importedText (Bytes.ofString code) root (Bytes.ofString r.declaration.print))
      | [(i, decl)] =>
        if decl.isStarForm then
          s.Ensures r true (Document.importedText (Bytes.ofString code) root (Bytes.ofString r.declaration.print))
        else if decl.imports r.name then s.Ensures r false (Bytes.ofString code)
        else
          s.Ensures r true ((Bytes.ofString code).take i.node.start ++ Bytes.ofString (decl.merge r.specifier).print ++
            (Bytes.ofString code).drop i.node.stop)
      | values =>
        s.ensure r = .error (.rivalImports r.origin values.length
          (values.map fun p => (Bytes.ofString code).line p.1.node.start)) := by
  refine ⟨_, Document.ofTree_eq_ok hfault, ?_⟩
  intro s hs
  have hbounded : Document.Bounded code (Document.items root) :=
    fun i hi => hboundaries i.node (Document.mem_children_of_mem_items hi)
  have hgroups : ∀ p ∈ Document.valueGroups (Bytes.ofString code) root r.origin,
      (Document.outline (Bytes.ofString code) root).groups[p.1.2]? = some p.1.1 :=
    fun p hp => Document.mem_valueGroups hp
  have hensure := ensure_eq r s
  rw [hs, Document.valueImportsFrom_ofItems] at hensure
  rw [Document.valueImports_eq]
  -- the session finds the declarations by index, the file holds them by item: both read them off the same groups
  generalize Document.valueGroups (Bytes.ofString code) root r.origin = values at hensure hgroups ⊢
  match values with
  | [] => exact ensures_inserted hs horder hbounded hensure
  | [((g, j), decl)] =>
    have hg := hgroups _ (List.mem_singleton_self _)
    simp only [List.map_cons, List.map_nil] at hensure ⊢
    cases hstar : decl.isStarForm with
    | true =>
      rw [hstar] at hensure
      exact ensures_inserted hs horder hbounded hensure
    | false =>
      rw [hstar] at hensure
      cases himports : decl.imports r.name with
      | true =>
        rw [himports] at hensure
        exact ensures_unchanged hs horder hensure
      | false =>
        rw [himports] at hensure
        exact ensures_merged hs horder hbounded hg hensure
  | p :: q :: values =>
    have hlines := Document.lines_valueGroups hgroups
    simp only [List.map_cons] at hensure hlines ⊢
    rw [hensure, hlines]
    simp only [List.length_cons, List.length_map]

/-- Two statements; the first of two comments between them stands behind the first one. -/
def commentedFile : String := "foo();\t// a\n\t// b\n\tbar();\n"

/-- The tree of that file. -/
def commentedTree : Node :=
  ⟨"program", true, false, 0, 26, none,
    [⟨"expression_statement", true, false, 0, 6, none, []⟩, ⟨"comment", true, false, 7, 11, none, []⟩,
      ⟨"comment", true, false, 13, 17, none, []⟩, ⟨"expression_statement", true, false, 19, 25, none, []⟩]⟩

theorem ensure_text_commented :
    ∃ s : Session, Document.ofTree .js (Bytes.ofString commentedFile) commentedTree = .ok s.document ∧
      s.Ensures ⟨"logError", "src/lib.logger", none⟩ true (Bytes.ofString
        "import \x7b logError \x7d from \"src/lib.logger\";\nfoo();\n// a\n\t// b\n\tbar();\n") := by
  obtain ⟨d, hd, h⟩ := ensure_text .js commentedFile commentedTree ⟨"logError", "src/lib.logger", none⟩
    (by decide +kernel) (by decide +kernel) (by decide +kernel)
  have hvalues : Document.valueImports (Bytes.ofString commentedFile) commentedTree "src/lib.logger" = [] :=
    List.isEmpty_iff.1 (by decide +kernel)
  have htext : Document.importedText (Bytes.ofString commentedFile) commentedTree
      (Bytes.ofString (Request.declaration ⟨"logError", "src/lib.logger", none⟩).print) = Bytes.ofString
        "import \x7b logError \x7d from \"src/lib.logger\";\nfoo();\n// a\n\t// b\n\tbar();\n" := by
    decide +kernel
  have hs := h ⟨d, {}, []⟩ rfl
  simp only [hvalues, htext] at hs
  exact ⟨⟨d, {}, []⟩, hd, hs⟩

/-- The import and a line end above the file is not what is printed: the comment behind the first statement gets a line
of its own. -/
theorem ensure_unhooks :
    ∃ s s' : Session, Document.ofTree .js (Bytes.ofString commentedFile) commentedTree = .ok s.document ∧
      s.ensure ⟨"logError", "src/lib.logger", none⟩ = .ok (true, s') ∧
      s'.document.render ≠
        .ok ("import \x7b logError \x7d from \"src/lib.logger\";\n" ++ commentedFile) := by
  have hrun : ((ensure ⟨"logError", "src/lib.logger", none⟩
      ⟨.ofItems (Bytes.ofString commentedFile) commentedTree, {}, []⟩).toOption.map fun r =>
        (r.1, r.2.document.render.toOption)) =
      some (true, some "import \x7b logError \x7d from \"src/lib.logger\";\nfoo();\n// a\n\t// b\n\tbar();\n") := by
    decide +kernel
  cases hs' : ensure ⟨"logError", "src/lib.logger", none⟩
      ⟨.ofItems (Bytes.ofString commentedFile) commentedTree, {}, []⟩ with
  | error e =>
    rw [hs'] at hrun
    cases hrun
  | ok r =>
    rw [hs'] at hrun
    obtain ⟨hchanged, hrender⟩ := Prod.mk.inj (Option.some.inj hrun)
    refine ⟨_, r.2, Document.ofTree_eq_ok (by decide +kernel), hs'.trans (by rw [← hchanged]), ?_⟩
    intro hother
    rw [hother] at hrender
    exact absurd hrender (by decide +kernel)

end Session
end CallRedirect
