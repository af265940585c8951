import CallRedirect.Document.Layout
import CallRedirect.Proofs.Outline
import Mathlib.Data.List.Chain
import Mathlib.Data.List.Forall2

/-! # Printing what was read

A document prints a row of pieces. The pieces of a document that was read from a tree are its items, in order, so
each keeps the gap before it, and the row is the file.

* `Document.laid`: items written one after the other, each with the gap before it.
* `Document.PrintsItems`: the document still prints its items in order, each with the bytes given for it.
* `Document.PrintsItems.renderBytes`: the bytes of such a document.
* `Document.render_ofTree`: reading a tree and printing the document gives the text back. -/

namespace CallRedirect
set_option autoImplicit false

namespace Document

/-! ## Printed items -/

/-- The bytes of an item in the file. -/
def Item.bytes (src : Bytes) (i : Item) : Bytes := src.slice i.node.start i.node.stop

/-- An item of the file with the bytes that are printed for it. -/
structure Printed where
  item : Item
  bytes : Bytes
  /-- The item is a comment that trailed a statement when it was read, and does not now. -/
  moved : Bool

def Printed.piece (p : Printed) : Piece := ⟨p.bytes, some p.item.slot, p.moved⟩

/-- What is printed between two items that follow each other in the file. -/
def Printed.gap (src : Bytes) (p q : Printed) : Bytes :=
  if (p.moved || q.moved) && !(p.item.gap src q.item).hasLineFeed then src.newline else p.item.gap src q.item

/-- The item in its place, with bytes of its own. -/
def Item.printed (write : Item → Bytes) (i : Item) : Printed := ⟨i, write i, false⟩

theorem Item.gap_printed (src : Bytes) (write : Item → Bytes) (i j : Item) :
    (i.printed write).gap src (j.printed write) = i.gap src j := rfl

/-- Printed items after the one that was printed last. -/
def follow (src : Bytes) : Printed → List Printed → Bytes
  | _, [] => []
  | p, q :: qs => p.gap src q ++ q.bytes ++ follow src q qs

/-- Items written from an offset of the file on, each with the gap before it. -/
def laid (src : Bytes) (write : Item → Bytes) : Nat → List Item → Bytes
  | _, [] => []
  | pos, i :: is => src.slice pos i.node.start ++ write i ++ laid src write i.node.stop is

/-- Where the last of some items stops; the offset before them if there is none. -/
def stopAfter : Nat → List Item → Nat
  | pos, [] => pos
  | _, i :: is => stopAfter i.node.stop is

theorem laid_append (src : Bytes) (write : Item → Bytes) (pos : Nat) (is js : List Item) :
    laid src write pos (is ++ js) = laid src write pos is ++ laid src write (stopAfter pos is) js := by
  induction is generalizing pos with
  | nil => rfl
  | cons i is ih => simp [laid, stopAfter, ih]

theorem stopAfter_append (pos : Nat) (is js : List Item) :
    stopAfter pos (is ++ js) = stopAfter (stopAfter pos is) js := by
  induction is generalizing pos with
  | nil => rfl
  | cons i is ih => rw [List.cons_append, stopAfter, ih, stopAfter]

theorem stopAfter_eq_getLast? (pos : Nat) (is : List Item) :
    stopAfter pos is = ((is.map Item.node).getLast?.map Node.stop).getD pos := by
  induction is generalizing pos with
  | nil => rfl
  | cons i is ih =>
    rw [stopAfter, ih]
    cases is with
    | nil => rfl
    | cons j js => simp [List.getLast?_cons]

theorem follow_printed (src : Bytes) (write : Item → Bytes) (i : Item) (is : List Item) :
    follow src (i.printed write) (is.map (Item.printed write)) = laid src write i.node.stop is := by
  induction is generalizing i with
  | nil => rfl
  | cons j js ih =>
    rw [List.map_cons, follow, laid, Item.gap_printed, ih]
    rfl

theorem le_stopAfter {pos hi : Nat} {is : List Item} (h : Node.InOrder pos hi (is.map Item.node)) :
    pos ≤ stopAfter pos is := by
  induction is generalizing pos with
  | nil => exact Nat.le_refl pos
  | cons i is ih =>
    have hspan := h.inside i.node List.mem_cons_self
    have hle := ih h.tail
    rw [stopAfter]
    omega

theorem laid_bytes {src : Bytes} {pos hi : Nat} {is : List Item} (h : Node.InOrder pos hi (is.map Item.node)) :
    laid src (Item.bytes src) pos is = src.slice pos (stopAfter pos is) := by
  induction is generalizing pos with
  | nil => simp [laid, stopAfter]
  | cons i is ih =>
    have hspan := h.inside i.node List.mem_cons_self
    rw [laid, stopAfter, ih h.tail, Item.bytes, src.slice_append_slice hspan.1 hspan.2.1,
      src.slice_append_slice (by omega) (le_stopAfter h.tail)]

/-! ## The row of pieces -/

theorem separator_piece {src : Bytes} {p q : Printed} {anchor : Option Slot} (h : p.item.Next q.item) :
    Piece.separator src p.piece q.piece anchor = p.gap src q := by
  have hadjacent : Piece.adjacent p.item.slot q.item.slot = true := beq_iff_eq.2 h
  simp only [Piece.separator, Printed.piece, hadjacent, if_true]
  rfl

theorem continued_pieces {src : Bytes} {p : Printed} {ps : List Printed} {anchor : Option Slot}
    (h : ((p :: ps).map Printed.item).IsChain Item.Next) :
    Piece.continued src p.piece anchor (ps.map Printed.piece) = follow src p ps := by
  induction ps generalizing p anchor with
  | nil => rfl
  | cons q qs ih =>
    obtain ⟨hpq, htail⟩ := List.isChain_cons_cons.1 h
    rw [List.map_cons, Piece.continued, separator_piece hpq, ih htail, follow]
    rfl

theorem pieces_comments (src : Bytes) (placement : Placement) (is : List Item) :
    (is.map (Item.comment src placement)).map (Piece.ofComment src placement) =
      (is.map (Item.printed (Item.bytes src))).map Printed.piece := by
  rw [List.map_map, List.map_map]
  apply List.map_congr_left
  intro i _
  cases placement <;> rfl

/-! ## Statements that print their groups -/

/-- The statement stands for the group, and prints as given. -/
structure Group.PrintsAs (src : Bytes) (g : Group) (bytes : Bytes) (s : Statement) : Prop where
  leading : s.leading = g.leading.map (Item.comment src .leading)
  trailing : s.trailing = g.trailing.map (Item.comment src .trailing)
  slot : s.slot = some g.item.slot
  render : s.render src = .ok bytes

theorem Group.PrintsAs.pieces {src : Bytes} {g : Group} {write : Item → Bytes} {s : Statement}
    (h : g.PrintsAs src (write g.item) s) (hleading : ∀ i ∈ g.leading, write i = i.bytes src)
    (htrailing : ∀ i ∈ g.trailing, write i = i.bytes src) :
    s.pieces src = .ok ((g.items.map (Item.printed write)).map Printed.piece) := by
  have hl : g.leading.map (Item.printed (Item.bytes src)) = g.leading.map (Item.printed write) :=
    List.map_congr_left fun i hi => by rw [Item.printed, Item.printed, hleading i hi]
  have ht : g.trailing.map (Item.printed (Item.bytes src)) = g.trailing.map (Item.printed write) :=
    List.map_congr_left fun i hi => by rw [Item.printed, Item.printed, htrailing i hi]
  rw [Statement.pieces, h.render, h.leading, h.trailing, h.slot, pieces_comments, pieces_comments, hl, ht, Group.items,
    List.map_append, List.map_append, List.map_cons, List.map_cons]
  rfl

/-- Statements print the groups they stand for, if the comments of the groups print as they stand in the file. -/
theorem mapM_pieces {src : Bytes} {write : Item → Bytes} {ss : List Statement} {gs : List Group}
    (h : List.Forall₂ (fun s g => g.PrintsAs src (write g.item) s) ss gs)
    (hwrite : ∀ g ∈ gs, (∀ i ∈ g.leading, write i = i.bytes src) ∧ ∀ i ∈ g.trailing, write i = i.bytes src) :
    ss.mapM (Statement.pieces src) = .ok (gs.map fun g => (g.items.map (Item.printed write)).map Printed.piece) := by
  induction h with
  | nil => rfl
  | @cons s g ss gs hsg _ ih =>
    have hg := hwrite g List.mem_cons_self
    rw [List.mapM_cons, hsg.pieces hg.1 hg.2, ih fun g' hg' => hwrite g' (List.mem_cons_of_mem g hg')]
    rfl

/-! ## Documents that print their items -/

/-- The document is laid out around the items of its tree. -/
structure Framed (d : Document) : Prop where
  bodyStart : d.bodyStart = (d.root.children.head?.map Node.start).getD 0
  bodyStop : d.bodyStop = (d.root.children.getLast?.map Node.stop).getD 0

/-- The document prints the items of its tree in order, each with the bytes given for it. -/
structure PrintsItems (write : Item → Bytes) (d : Document) : Prop extends Framed d where
  comments : d.comments = (outline d.source d.root).header.map (Item.comment d.source .file)
  statements : List.Forall₂ (fun s g => g.PrintsAs d.source (write g.item) s) d.statements
    (outline d.source d.root).groups
  verbatim : ∀ i ∈ items d.root, i.isComment = true → write i = i.bytes d.source

theorem mem_items_of_header {src : Bytes} {root : Node} {i : Item} (hi : i ∈ (outline src root).header) :
    i ∈ items root := by
  rw [← items_outline src root]
  exact List.mem_append_left _ hi

theorem mem_items_of_group {src : Bytes} {root : Node} {g : Group} {i : Item} (hg : g ∈ (outline src root).groups)
    (hi : i ∈ g.items) : i ∈ items root := by
  rw [← items_outline src root]
  exact List.mem_append_right _ (List.mem_flatMap_of_mem hg hi)

theorem PrintsItems.pieces {write : Item → Bytes} {d : Document} (h : d.PrintsItems write) :
    d.pieces = .ok (((items d.root).map (Item.printed write)).map Printed.piece) := by
  have hheader : (outline d.source d.root).header.map (Item.printed (Item.bytes d.source)) =
      (outline d.source d.root).header.map (Item.printed write) := by
    apply List.map_congr_left
    intro i hi
    rw [Item.printed, Item.printed, h.verbatim i (mem_items_of_header hi) (isComment_of_mem_header hi)]
  have hgroups := mapM_pieces h.statements (by
    intro g hg
    have hsorted := sorted_outline _ _ g hg
    constructor
    · intro i hi
      exact h.verbatim i (mem_items_of_group hg (List.mem_append_left _ hi)) (hsorted.leading i hi)
    · intro i hi
      exact h.verbatim i (mem_items_of_group hg (List.mem_append_right _ (List.mem_cons_of_mem _ hi)))
        (hsorted.trailing i hi))
  rw [Document.pieces, hgroups, h.comments, pieces_comments, hheader, ← items_outline d.source d.root, Outline.items,
    List.map_append, List.map_append, List.map_flatMap, List.map_flatMap, List.flatMap_def]
  rfl

theorem continued_printed {src : Bytes} {write : Item → Bytes} {i : Item} {is : List Item} {anchor : Option Slot}
    (h : (i :: is).IsChain Item.Next) :
    Piece.continued src (i.printed write).piece anchor ((is.map (Item.printed write)).map Printed.piece) =
      laid src write i.node.stop is := by
  rw [continued_pieces, follow_printed]
  simpa [Item.printed, Function.comp_def] using h

theorem PrintsItems.renderBytes {write : Item → Bytes} {d : Document} (h : d.PrintsItems write) :
    d.renderBytes = .ok (laid d.source write 0 (items d.root) ++ d.source.drop (stopAfter 0 (items d.root))) := by
  have hstop : d.bodyStop = stopAfter 0 (items d.root) := by
    rw [h.bodyStop, stopAfter_eq_getLast?, map_node_items]
  have hrow : d.source.take d.bodyStart ++
      Piece.row d.source (((items d.root).map (Item.printed write)).map Printed.piece) =
        laid d.source write 0 (items d.root) := by
    have hchain := isChain_next_items d.root
    rw [h.bodyStart, ← map_node_items]
    generalize items d.root = all at hchain ⊢
    cases all with
    | nil => simp [Piece.row, laid]
    | cons i is =>
      simp only [List.map_cons, Piece.row, continued_printed hchain, laid]
      simp [Item.printed, Printed.piece, Bytes.slice]
  rw [Document.renderBytes, h.pieces]
  show Except.ok _ = _
  rw [hrow, hstop]

/-! ## The document as it was read -/

theorem printsAs_statement (src : Bytes) (g : Group) : g.PrintsAs src (g.item.bytes src) (g.statement src) :=
  ⟨rfl, rfl, rfl, rfl⟩

theorem printsItems_ofItems (src : Bytes) (root : Node) : (ofItems src root).PrintsItems (Item.bytes src) := by
  rw [ofItems_eq]
  refine ⟨⟨rfl, rfl⟩, rfl, ?_, fun _ _ _ => rfl⟩
  rw [List.forall₂_map_left_iff, List.forall₂_same]
  exact fun g _ => printsAs_statement src g

theorem source_ofItems (src : Bytes) (root : Node) : (ofItems src root).source = src := by rw [ofItems_eq]

theorem root_ofItems (src : Bytes) (root : Node) : (ofItems src root).root = root := by rw [ofItems_eq]

theorem statements_ofItems (src : Bytes) (root : Node) :
    (ofItems src root).statements = (outline src root).groups.map (Group.statement src) := by rw [ofItems_eq]

theorem ofTree_eq_error {dialect : Dialect} {src : Bytes} {root n : Node} (h : root.firstFaulty? = some n) :
    ofTree dialect src root = .error (.malformed dialect (n.line src) (n.column src)) := by
  rw [ofTree, ofFlagged, Node.fault?_hasFaulty, h]

theorem ofTree_eq_ok {dialect : Dialect} {src : Bytes} {root : Node} (h : root.firstFaulty? = none) :
    ofTree dialect src root = .ok (ofItems src root) := by
  rw [ofTree, ofFlagged, Node.fault?_hasFaulty, h]

theorem renderBytes_ofItems {src : Bytes} {root : Node} (horder : Node.InOrder 0 src.length root.children) :
    (ofItems src root).renderBytes = .ok src := by
  rw [← map_node_items] at horder
  have hbytes := (printsItems_ofItems src root).renderBytes
  rwa [source_ofItems, root_ofItems, laid_bytes horder, Bytes.slice, List.drop_zero, List.take_append_drop] at hbytes

/-- What was read prints as it stood: the document of a text that fits the grammar prints that text. -/
theorem render_ofTree (dialect : Dialect) (code : String) (root : Node) (hfault : root.firstFaulty? = none)
    (horder : Node.InOrder 0 (Bytes.ofString code).length root.children) :
    ∃ d, ofTree dialect (Bytes.ofString code) root = .ok d ∧ d.render = .ok code := by
  refine ⟨_, ofTree_eq_ok hfault, ?_⟩
  rw [render, renderBytes_ofItems horder]
  exact Bytes.decode_ofString code

/-- The tree of a script with a hash-bang line, a statement, and a comment behind it. -/
def script : Node :=
  ⟨"program", true, false, 0, 19, none,
    [⟨"hash_bang_line", true, false, 0, 4, none, []⟩, ⟨"expression_statement", true, false, 8, 12, none, []⟩,
      ⟨"comment", true, false, 13, 17, none, []⟩]⟩

theorem render_ofTree_script :
    ∃ d, ofTree .js (Bytes.ofString "#!/x\r\n\r\nf(); // t\r\n") script = .ok d ∧
      d.render = .ok "#!/x\r\n\r\nf(); // t\r\n" :=
  render_ofTree .js _ script (by decide +kernel) (by decide)

end Document
end CallRedirect
