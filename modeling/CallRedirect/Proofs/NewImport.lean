import CallRedirect.Proofs.Ensuring
import CallRedirect.Proofs.Insertion

/-! # The text around a new import

A new import goes right after the last import of a file, with all comments that trail that import above it. In a file
without imports it goes below the comments of the file, and if there are none above the first statement.

* `Document.Outline.above`: the items above a new import.
* `Document.Outline.unhooked`: the comments that no longer trail the first statement.
* `Document.importedText`: the text of a file with a new import.
* `Document.PrintsImport`: documents that print a file around a new import.
* `Session.renderBytes_insertImport`: putting in a declaration gives that text. -/

namespace CallRedirect
set_option autoImplicit false

/-! ## The last import -/

/-- The statement is no import. -/
def Statement.isPlain (s : Statement) : Bool := !s.isImport

namespace Document

theorem take_last_import (ss : List Statement) :
    ((ss.zipIdx.filterMap fun (s, i) => s.import?.map fun decl => (i, decl)).getLast?.map fun p => ss.take (p.1 + 1)) =
      if (ss.rdropWhile Statement.isPlain).isEmpty then none else some (ss.rdropWhile Statement.isPlain) := by
  -- from the end: an import there is the last one, and any other statement leaves the last one where it is
  induction ss using List.reverseRecOn with
  | nil => rfl
  | append_singleton ss s ih =>
    rw [List.zipIdx_append, List.filterMap_append]
    cases hs : s.import? with
    | some decl =>
      have hplain : ¬ s.isPlain = true := by simp [Statement.isPlain, Statement.isImport, hs]
      have hall : (ss ++ [s]).take (ss.length + 1) = ss ++ [s] := List.take_of_length_le (by simp)
      rw [List.rdropWhile_concat_neg _ _ _ hplain]
      simp [hs, hall]
    | none =>
      have hplain : s.isPlain = true := by simp [Statement.isPlain, Statement.isImport, hs]
      rw [List.rdropWhile_concat_pos _ _ _ hplain, ← ih]
      simp only [List.zipIdx_singleton, List.filterMap_cons, hs, Option.map_none, List.filterMap_nil, List.append_nil]
      apply Option.map_congr
      intro p hp
      obtain ⟨⟨s', i⟩, hs', hp⟩ := List.mem_filterMap.1 (List.mem_of_getLast? hp)
      obtain ⟨decl, -, rfl⟩ := Option.map_eq_some_iff.1 hp
      have hi := (List.getElem?_eq_some_iff.1 (List.mk_mem_zipIdx_iff_getElem?.1 hs')).1
      exact List.take_append_of_le_length hi

/-- A new statement goes between the statements down to the last import and those after it. -/
theorem insertAfterImports?_eq (d : Document) (s : Statement) :
    d.insertAfterImports? s =
      if (d.statements.rdropWhile Statement.isPlain).isEmpty then none
      else some { d with
        statements :=
          d.statements.rdropWhile Statement.isPlain ++ s :: d.statements.rtakeWhile Statement.isPlain } := by
  have htake := take_last_import d.statements
  rw [insertAfterImports?, imports]
  cases hlast : (d.statements.zipIdx.filterMap fun (s, i) => s.import?.map fun decl => (i, decl)).getLast? with
  | none =>
    rw [hlast] at htake
    split at htake
    · next hempty => rw [if_pos hempty]; rfl
    · cases htake
  | some p =>
    rw [hlast] at htake
    split at htake
    · cases htake
    · next hempty =>
      have htake : d.statements.take (p.1 + 1) = d.statements.rdropWhile Statement.isPlain := Option.some.inj htake
      have hdrop : d.statements.drop (p.1 + 1) = d.statements.rtakeWhile Statement.isPlain := by
        apply List.append_cancel_left
        rw [List.take_append_drop, htake, List.rdropWhile_append_rtakeWhile]
      rw [if_neg hempty, ← hdrop, ← htake]
      rfl

/-! ## The place of a new import -/

/-- The statement of the group is no import. -/
def Group.isPlain (src : Bytes) (g : Group) : Bool := (g.statement src).isPlain

namespace Outline

/-- The groups down to the last import. -/
def throughImports (src : Bytes) (o : Outline) : List Group := o.groups.rdropWhile (Group.isPlain src)

/-- The items above a new import. -/
def above (src : Bytes) (o : Outline) : List Item :=
  if !(o.throughImports src).isEmpty then o.header ++ (o.throughImports src).flatMap Group.items
  else if !o.header.isEmpty then o.header
  else (o.groups.head?.map Group.leading).getD []

/-- The comments that trail the first of several statements until a new import comes to stand above it. -/
def unhooked (src : Bytes) (o : Outline) : List Item :=
  if !(o.throughImports src).isEmpty || !o.header.isEmpty then []
  else
    match o.groups with
    | g :: _ :: _ => g.trailing
    | _ => []

end Outline

/-- The file from an item on. If comments after it are unhooked, they stand on lines of their own, and so does the item
after them. -/
def tailBelow (src : Bytes) (unhooked : List Item) : List Item → Bytes
  | [] => []
  | j :: js =>
    if unhooked.isEmpty then src.drop j.node.start
    else
      let lines := js.take (unhooked.length + 1)
      j.bytes src ++ onLines src j lines ++ src.drop (stopAfter j.node.stop lines)

/-- The text of a file with a new import. -/
def importedText (src : Bytes) (root : Node) (text : Bytes) : Bytes :=
  let o := outline src root
  let below := (items root).drop (o.above src).length
  insertedText src text (o.above src).getLast? below.head? (tailBelow src (o.unhooked src) below)

/-- The items above a new import are the first ones of the file. -/
theorem exists_items_below (src : Bytes) (root : Node) :
    ∃ below, items root = (outline src root).above src ++ below := by
  rw [← items_outline src root, Outline.above, Outline.items]
  split
  · obtain ⟨rest, hrest⟩ := List.rdropWhile_prefix (Group.isPlain src) (outline src root).groups
    refine ⟨rest.flatMap Group.items, ?_⟩
    rw [List.append_assoc, Outline.throughImports, ← List.flatMap_append, hrest]
  · split
    · exact ⟨_, rfl⟩
    · next hheader =>
      have hnil : (outline src root).header = [] := by simpa using hheader
      rw [hnil, List.nil_append]
      cases (outline src root).groups with
      | nil => exact ⟨[], rfl⟩
      | cons g gs => exact ⟨g.item :: g.trailing ++ gs.flatMap Group.items, by simp [Group.items]⟩

/-! ## The pieces around a new import -/

section Pieces
variable {src : Bytes}

theorem pieces_statement (src : Bytes) (g : Group) :
    (g.statement src).pieces src = .ok ((g.items.map (Item.printed (Item.bytes src))).map Printed.piece) :=
  Group.PrintsAs.pieces (printsAs_statement src g) (fun _ _ => rfl) (fun _ _ => rfl)

theorem mapM_statements (src : Bytes) (gs : List Group) :
    (gs.map (Group.statement src)).mapM (Statement.pieces src) =
      .ok (gs.map fun g => (g.items.map (Item.printed (Item.bytes src))).map Printed.piece) := by
  induction gs with
  | nil => rfl
  | cons g gs ih =>
    rw [List.map_cons, List.mapM_cons, pieces_statement, ih]
    rfl

theorem flatten_statements (src : Bytes) (gs : List Group) :
    (gs.map fun g => (g.items.map (Item.printed (Item.bytes src))).map Printed.piece).flatten =
      ((gs.flatMap Group.items).map (Item.printed (Item.bytes src))).map Printed.piece := by
  rw [List.map_flatMap, List.map_flatMap, List.flatMap_def]

theorem pieces_ofImport (src : Bytes) (decl : ImportDecl) (leading : List Item) :
    Statement.pieces src { Statement.ofImport decl with leading := leading.map (Item.comment src .leading) } =
      .ok ((leading.map (Item.printed (Item.bytes src))).map Printed.piece ++
        [newPiece (Bytes.ofString decl.print)]) := by
  have hcomments := pieces_comments src .leading leading
  rw [Statement.pieces, hcomments]
  rfl

theorem pieces_unhooked (src : Bytes) (is : List Item) :
    (is.map (Item.comment src .trailing)).map (Piece.ofComment src .leading) =
      (is.map (Item.unhooked src)).map Printed.piece := by
  rw [List.map_map, List.map_map]
  rfl

theorem pieces_append_leading (src : Bytes) (s : Statement) (cs : List Comment) :
    Statement.pieces src { s with leading := cs ++ s.leading } =
      (s.pieces src).map (cs.map (Piece.ofComment src .leading) ++ ·) := by
  have hrender : Statement.render src { s with leading := cs ++ s.leading } = s.render src := rfl
  rw [Statement.pieces, Statement.pieces, hrender, List.map_append]
  cases s.render src with
  | error e => rfl
  | ok bytes => simp [Except.map]

theorem pieces_of_statements {d : Document} {header : List Item} {pss : List (List Piece)}
    (hcomments : d.comments = header.map (Item.comment d.source .file))
    (hstatements : d.statements.mapM (Statement.pieces d.source) = .ok pss) :
    d.pieces = .ok ((header.map (Item.printed (Item.bytes d.source))).map Printed.piece ++ pss.flatten) := by
  rw [pieces, hstatements, hcomments, pieces_comments]
  rfl

end Pieces

section PrintsAround
variable {src : Bytes} {root : Node}

theorem map_item_printed (src : Bytes) (is : List Item) :
    (is.map (Item.printed (Item.bytes src))).map Printed.item = is := by
  rw [List.map_map]
  exact List.map_id is

/-- The new import stands between two statements, or between the comments of the file and the first one. -/
theorem printsAround_insert (decl : ImportDecl) {upper lower : List Group}
    (hgroups : (outline src root).groups = upper ++ lower) :
    PrintsAround ((outline src root).header ++ upper.flatMap Group.items) (Bytes.ofString decl.print)
      ((lower.flatMap Group.items).map (Item.printed (Item.bytes src)))
      { ofItems src root with
        statements :=
          upper.map (Group.statement src) ++ Statement.ofImport decl :: lower.map (Group.statement src) } := by
  have hnew : Statement.pieces src (Statement.ofImport decl) = .ok [newPiece (Bytes.ofString decl.print)] :=
    pieces_ofImport src decl []
  have hstatements : (upper.map (Group.statement src) ++ Statement.ofImport decl ::
      lower.map (Group.statement src)).mapM (Statement.pieces src) =
      .ok ((upper.map fun g => (g.items.map (Item.printed (Item.bytes src))).map Printed.piece) ++
        [newPiece (Bytes.ofString decl.print)] ::
          lower.map fun g => (g.items.map (Item.printed (Item.bytes src))).map Printed.piece) := by
    rw [List.mapM_append, List.mapM_cons, mapM_statements, mapM_statements, hnew]
    rfl
  rw [ofItems_eq]
  refine ⟨⟨rfl, rfl⟩, ?_, ?_⟩
  · show items root = _
    rw [← items_outline src root, Outline.items, hgroups, List.flatMap_append, map_item_printed, List.append_assoc]
  · rw [pieces_of_statements rfl hstatements, List.flatten_append, List.flatten_cons, flatten_statements,
      flatten_statements, List.map_append, List.map_append]
    simp only [List.append_assoc, List.singleton_append]

/-- The new import takes over the comments above the only statement. -/
theorem printsAround_alone (decl : ImportDecl) {g : Group} (hheader : (outline src root).header = [])
    (hgroups : (outline src root).groups = [g]) :
    PrintsAround g.leading (Bytes.ofString decl.print) ((g.item :: g.trailing).map (Item.printed (Item.bytes src)))
      { ofItems src root with
        statements :=
          [{ Statement.ofImport decl with leading := (g.statement src).leading },
            { g.statement src with leading := [] }] } := by
  have hnew : Statement.pieces src { Statement.ofImport decl with leading := (g.statement src).leading } = _ :=
    pieces_ofImport src decl g.leading
  have hfirst : Statement.pieces src { g.statement src with leading := [] } = _ :=
    pieces_statement src { g with leading := [] }
  have hstatements : [{ Statement.ofImport decl with leading := (g.statement src).leading },
      { g.statement src with leading := [] }].mapM (Statement.pieces src) =
      .ok [(g.leading.map (Item.printed (Item.bytes src))).map Printed.piece ++ [newPiece (Bytes.ofString decl.print)],
        ((g.item :: g.trailing).map (Item.printed (Item.bytes src))).map Printed.piece] := by
    rw [List.mapM_cons, List.mapM_cons, hnew, hfirst, List.mapM_nil]
    rfl
  rw [ofItems_eq]
  refine ⟨⟨rfl, rfl⟩, ?_, ?_⟩
  · show items root = _
    rw [← items_outline src root, Outline.items, hheader, hgroups, map_item_printed]
    simp [Group.items]
  · rw [pieces_of_statements rfl hstatements, hheader]
    simp

/-- The new import takes over the comments above the first of several statements, and the comments behind it go to the
second one. -/
theorem printsAround_shared (decl : ImportDecl) {g g₂ : Group} {gs : List Group}
    (hheader : (outline src root).header = []) (hgroups : (outline src root).groups = g :: g₂ :: gs) :
    PrintsAround g.leading (Bytes.ofString decl.print)
      (g.item.printed (Item.bytes src) :: (g.trailing.map (Item.unhooked src) ++
        ((g₂ :: gs).flatMap Group.items).map (Item.printed (Item.bytes src))))
      { ofItems src root with
        statements :=
          { Statement.ofImport decl with leading := (g.statement src).leading } ::
          { g.statement src with leading := [], trailing := [] } ::
          { g₂.statement src with leading := (g.statement src).trailing ++ (g₂.statement src).leading } ::
          gs.map (Group.statement src) } := by
  have hnew : Statement.pieces src { Statement.ofImport decl with leading := (g.statement src).leading } = _ :=
    pieces_ofImport src decl g.leading
  have hfirst : Statement.pieces src { g.statement src with leading := [], trailing := [] } = _ :=
    pieces_statement src { g with leading := [], trailing := [] }
  have hsecond : Statement.pieces src
      { g₂.statement src with leading := (g.statement src).trailing ++ (g₂.statement src).leading } =
      .ok ((g.trailing.map (Item.unhooked src)).map Printed.piece ++
        (g₂.items.map (Item.printed (Item.bytes src))).map Printed.piece) := by
    rw [pieces_append_leading, pieces_statement, ← pieces_unhooked]
    rfl
  have hstatements : ({ Statement.ofImport decl with leading := (g.statement src).leading } ::
      { g.statement src with leading := [], trailing := [] } ::
      { g₂.statement src with leading := (g.statement src).trailing ++ (g₂.statement src).leading } ::
      gs.map (Group.statement src)).mapM (Statement.pieces src) =
      .ok (((g.leading.map (Item.printed (Item.bytes src))).map Printed.piece ++
          [newPiece (Bytes.ofString decl.print)]) ::
        [(g.item.printed (Item.bytes src)).piece] ::
        ((g.trailing.map (Item.unhooked src)).map Printed.piece ++
          (g₂.items.map (Item.printed (Item.bytes src))).map Printed.piece) ::
        gs.map fun g => (g.items.map (Item.printed (Item.bytes src))).map Printed.piece) := by
    rw [List.mapM_cons, List.mapM_cons, List.mapM_cons, hnew, hfirst, hsecond, mapM_statements]
    rfl
  rw [ofItems_eq]
  refine ⟨⟨rfl, rfl⟩, ?_, ?_⟩
  · show items root = _
    have hunhooked : (g.trailing.map (Item.unhooked src)).map Printed.item = g.trailing := by
      rw [List.map_map]
      exact List.map_id _
    rw [← items_outline src root, Outline.items, hheader, hgroups, List.map_cons, List.map_append, map_item_printed,
      hunhooked, List.flatMap_cons, Group.items]
    simp only [List.nil_append, List.append_assoc, List.cons_append]
    rfl
  · rw [pieces_of_statements rfl hstatements, hheader]
    simp only [List.map_nil, List.nil_append, List.flatten_cons, flatten_statements, List.flatMap_cons, List.map_append,
      List.map_cons, List.append_assoc, List.cons_append]

end PrintsAround

/-! ## The text -/

section Text
variable {src : Bytes} {root : Node}

/-- The document prints the items of a file around a new import. -/
structure PrintsImport (src : Bytes) (root : Node) (text : Bytes) (d : Document) : Prop where
  source : d.source = src
  tree : d.root = root
  around : ∃ below, d.PrintsAround ((outline src root).above src) text below ∧
    remainder src below = tailBelow src ((outline src root).unhooked src) (below.map Printed.item)

theorem PrintsImport.renderBytes {d : Document} {text : Bytes} (h : d.PrintsImport src root text)
    (horder : Node.InOrder 0 src.length root.children) : d.renderBytes = .ok (importedText src root text) := by
  obtain ⟨below, haround, htail⟩ := h.around
  have hitems : Document.items root = (outline src root).above src ++ below.map Printed.item := h.tree ▸ haround.items
  have hbelow : (Document.items root).drop ((outline src root).above src).length = below.map Printed.item := by
    rw [hitems, List.drop_left]
  rw [haround.renderBytes (by rwa [h.source, h.tree]), importedText, hbelow, h.source, htail]

theorem remainder_tailBelow {below : List Item} {lo hi : Nat} (horder : Node.InOrder lo hi (below.map Item.node)) :
    remainder src (below.map (Item.printed (Item.bytes src))) =
      tailBelow src [] ((below.map (Item.printed (Item.bytes src))).map Printed.item) := by
  rw [map_item_printed]
  cases below with
  | nil => rfl
  | cons j js => exact remainder_printed horder

theorem remainder_shared {j : Item} {ts rest : List Item} {lo hi : Nat} (hrest : rest ≠ [])
    (horder : Node.InOrder lo hi ((j :: (ts ++ rest)).map Item.node)) :
    remainder src (j.printed (Item.bytes src) :: (ts.map (Item.unhooked src) ++
        rest.map (Item.printed (Item.bytes src)))) = tailBelow src ts (j :: (ts ++ rest)) := by
  obtain ⟨n, ns, rfl⟩ := List.exists_cons_of_ne_nil hrest
  by_cases hts : ts = []
  · subst hts
    exact remainder_printed horder
  · have hlines : (ts ++ n :: ns).take (ts.length + 1) = ts ++ [n] := by
      rw [List.take_length_add_append, List.take_succ_cons, List.take_zero]
    have hbelow : (n :: ns).Sublist (j :: (ts ++ n :: ns)) :=
      (List.sublist_append_right ts (n :: ns)).trans (List.sublist_cons_self _ _)
    have hstop : stopAfter j.node.stop (ts ++ [n]) = n.node.stop := by rw [stopAfter_append, stopAfter, stopAfter]
    rw [remainder_unhooked hts (horder.sublist (hbelow.map Item.node)), tailBelow, if_neg (by simpa using hts), hlines]
    show _ = j.bytes src ++ onLines src j (ts ++ [n]) ++ src.drop (stopAfter j.node.stop (ts ++ [n]))
    rw [hstop]

theorem inOrder_groups {hi : Nat} (horder : Node.InOrder 0 hi root.children) {gs : List Group}
    (hgs : gs <:+ (outline src root).groups) : Node.InOrder 0 hi ((gs.flatMap Group.items).map Item.node) := by
  obtain ⟨upper, hgroups⟩ := hgs
  rw [← map_node_items, ← items_outline src root, Outline.items, ← hgroups, List.flatMap_append] at horder
  refine horder.sublist (List.Sublist.map _ ?_)
  exact (List.sublist_append_right _ _).trans (List.sublist_append_right _ _)

theorem printsImport_insert (decl : ImportDecl) {upper lower : List Group}
    (hgroups : (outline src root).groups = upper ++ lower) (horder : Node.InOrder 0 src.length root.children)
    (habove : (outline src root).above src = (outline src root).header ++ upper.flatMap Group.items)
    (hunhooked : (outline src root).unhooked src = []) :
    PrintsImport src root (Bytes.ofString decl.print) { ofItems src root with
      statements := upper.map (Group.statement src) ++ Statement.ofImport decl :: lower.map (Group.statement src) } := by
  refine ⟨source_ofItems src root, root_ofItems src root, _, habove ▸ printsAround_insert decl hgroups, ?_⟩
  rw [hunhooked]
  exact remainder_tailBelow (inOrder_groups horder ⟨upper, hgroups.symm⟩)

theorem printsImport_alone (decl : ImportDecl) {g : Group} (horder : Node.InOrder 0 src.length root.children)
    (hheader : (outline src root).header = []) (hgroups : (outline src root).groups = [g])
    (habove : (outline src root).above src = g.leading) (hunhooked : (outline src root).unhooked src = []) :
    PrintsImport src root (Bytes.ofString decl.print) { ofItems src root with
      statements :=
        [{ Statement.ofImport decl with leading := (g.statement src).leading },
          { g.statement src with leading := [] }] } := by
  refine ⟨source_ofItems src root, root_ofItems src root, _, habove ▸ printsAround_alone decl hheader hgroups, ?_⟩
  have horder' := inOrder_groups horder ⟨[], hgroups.symm⟩
  have hitems : (g.item :: g.trailing).Sublist ([g].flatMap Group.items) := by
    simp [Group.items]
  rw [hunhooked]
  exact remainder_tailBelow (horder'.sublist (hitems.map Item.node))

theorem printsImport_shared (decl : ImportDecl) {g g₂ : Group} {gs : List Group}
    (horder : Node.InOrder 0 src.length root.children) (hheader : (outline src root).header = [])
    (hgroups : (outline src root).groups = g :: g₂ :: gs) (habove : (outline src root).above src = g.leading)
    (hunhooked : (outline src root).unhooked src = g.trailing) :
    PrintsImport src root (Bytes.ofString decl.print) { ofItems src root with
      statements :=
        { Statement.ofImport decl with leading := (g.statement src).leading } ::
        { g.statement src with leading := [], trailing := [] } ::
        { g₂.statement src with leading := (g.statement src).trailing ++ (g₂.statement src).leading } ::
        gs.map (Group.statement src) } := by
  refine ⟨source_ofItems src root, root_ofItems src root, _, habove ▸ printsAround_shared decl hheader hgroups, ?_⟩
  have horder' := inOrder_groups horder ⟨[], hgroups.symm⟩
  rw [List.flatMap_cons, Group.items, List.append_assoc] at horder'
  have hsecond : (g₂ :: gs).flatMap Group.items ≠ [] := by simp [Group.items]
  have hunhooked' : (g.trailing.map (Item.unhooked src)).map Printed.item = g.trailing := by
    rw [List.map_map]
    exact List.map_id _
  rw [hunhooked, List.map_cons, List.map_append, map_item_printed, hunhooked']
  exact remainder_shared hsecond (horder'.sublist ((List.sublist_append_right _ _).map Item.node))

theorem printsImport_insert_zero (decl : ImportDecl) (horder : Node.InOrder 0 src.length root.children)
    (habove : (outline src root).above src = (outline src root).header)
    (hunhooked : (outline src root).unhooked src = []) :
    ((ofItems src root).insert 0 (Statement.ofImport decl)).PrintsImport src root (Bytes.ofString decl.print) := by
  have habove' : (outline src root).above src = (outline src root).header ++ [].flatMap Group.items := by
    rw [habove, List.flatMap_nil, List.append_nil]
  have hinsert := printsImport_insert decl rfl horder habove' hunhooked
  rw [← statements_ofItems] at hinsert
  exact hinsert

theorem printsImport_insertAtTop (decl : ImportDecl) (horder : Node.InOrder 0 src.length root.children)
    (himports : ((outline src root).throughImports src).isEmpty = true) :
    ((ofItems src root).insertAtTop (Statement.ofImport decl)).2.PrintsImport src root (Bytes.ofString decl.print) := by
  have habove : (outline src root).above src =
      if !(outline src root).header.isEmpty then (outline src root).header
      else ((outline src root).groups.head?.map Group.leading).getD [] := by
    rw [Outline.above, himports]
    rfl
  have hunhooked : (outline src root).unhooked src =
      if !(outline src root).header.isEmpty then []
      else
        match (outline src root).groups with
        | g :: _ :: _ => g.trailing
        | _ => [] := by
    rw [Outline.unhooked, himports]
    rfl
  have hcomments : (ofItems src root).comments.isEmpty = (outline src root).header.isEmpty := by
    rw [ofItems_eq, List.isEmpty_map]
  rw [insertAtTop, hcomments, statements_ofItems]
  cases hheader : (outline src root).header.isEmpty with
  | false =>
    simp only [hheader, Bool.not_false, if_true] at habove hunhooked ⊢
    exact printsImport_insert_zero decl horder habove hunhooked
  | true =>
    have hnil := List.isEmpty_iff.1 hheader
    simp only [hheader, Bool.not_true, Bool.false_eq_true, if_false] at habove hunhooked ⊢
    cases hgroups : (outline src root).groups with
    | nil =>
      rw [hgroups] at habove hunhooked
      exact printsImport_insert_zero decl horder (habove.trans hnil.symm) hunhooked
    | cons g gs =>
      rw [hgroups] at habove hunhooked
      simp only [List.map_cons]
      cases hhas : (g.statement src).hasComments with
      | false =>
        have hnone : g.leading = [] ∧ g.trailing = [] := by
          simpa [Statement.hasComments, Group.statement, Item.statement] using hhas
        have hlast : (outline src root).unhooked src = [] := by
          rw [hunhooked]
          cases gs with
          | nil => rfl
          | cons _ _ => exact hnone.2
        exact printsImport_insert_zero decl horder (habove.trans (hnone.1.trans hnil.symm)) hlast
      | true =>
        cases gs with
        | nil => exact printsImport_alone decl horder hnil hgroups habove hunhooked
        | cons g₂ gs => exact printsImport_shared decl horder hnil hgroups habove hunhooked

end Text

end Document

namespace Session

section Insert
variable {src : Bytes} {root : Node}

theorem insertAfterImports?_ofItems (s : Statement) :
    (Document.ofItems src root).insertAfterImports? s =
      if ((Document.outline src root).throughImports src).isEmpty then none
      else some { Document.ofItems src root with
        statements := ((Document.outline src root).throughImports src).map (Document.Group.statement src) ++
          s :: ((Document.outline src root).groups.rtakeWhile (Document.Group.isPlain src)).map
            (Document.Group.statement src) } := by
  have hdrop (gs : List Document.Group) : (gs.map (Document.Group.statement src)).rdropWhile Statement.isPlain =
      (gs.rdropWhile (Document.Group.isPlain src)).map (Document.Group.statement src) := by
    rw [List.rdropWhile, ← List.map_reverse, List.dropWhile_map, ← List.map_reverse]
    rfl
  have htake (gs : List Document.Group) : (gs.map (Document.Group.statement src)).rtakeWhile Statement.isPlain =
      (gs.rtakeWhile (Document.Group.isPlain src)).map (Document.Group.statement src) := by
    rw [List.rtakeWhile, ← List.map_reverse, List.takeWhile_map, ← List.map_reverse]
    rfl
  rw [Document.insertAfterImports?_eq, Document.statements_ofItems, hdrop, htake, List.isEmpty_map]
  rfl

/-- A file as it was read prints its items around a declaration that is put in. -/
theorem printsImport_ofItems (r : Request) (horder : Node.InOrder 0 src.length root.children) :
    (((Document.ofItems src root).insertAfterImports? r.statement).getD
      ((Document.ofItems src root).insertAtTop r.statement).2).PrintsImport src root
        (Bytes.ofString r.declaration.print) := by
  rw [insertAfterImports?_ofItems, Request.statement_eq]
  by_cases himports : ((Document.outline src root).throughImports src).isEmpty
  · rw [if_pos himports, Option.getD_none]
    exact Document.printsImport_insertAtTop _ horder himports
  · rw [if_neg himports, Option.getD_some]
    apply Document.printsImport_insert _ _ horder
    · rw [Document.Outline.above, if_pos (by simpa using himports)]
    · rw [Document.Outline.unhooked, if_pos (by simp [himports])]
    · exact List.rdropWhile_append_rtakeWhile.symm

/-- The text of a file as it was read after a declaration was put in. -/
theorem renderBytes_insertImport {s : Session} (r : Request) (hs : s.document = .ofItems src root)
    (horder : Node.InOrder 0 src.length root.children) :
    (s.insertImport r).document.renderBytes =
      .ok (Document.importedText src root (Bytes.ofString r.declaration.print)) := by
  rw [document_insertImport, hs]
  exact (printsImport_ofItems r horder).renderBytes horder

end Insert
end Session
end CallRedirect
