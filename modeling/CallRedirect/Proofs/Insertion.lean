import CallRedirect.Import.Insertion
import CallRedirect.Proofs.Printing
import Mathlib.Data.List.DropRight

/-! # A new statement in a file

A statement that is put into a document as it was read stands on a line of its own between two items of the file, and
all items keep their order. The text before it stays as it is, and so does the text after it, unless comments that
trailed the first statement lose their place: these are put on lines of their own.

* `Document.insertedText`: the text of a file with a new text between two items.
* `Document.PrintsAround.renderBytes`: a document that prints its items around a new text prints that. -/

namespace CallRedirect
set_option autoImplicit false

namespace Document

/-! ## The text -/

/-- What stands between two items if it ends a line, and else a line end. -/
def Item.lineGap (src : Bytes) (i j : Item) : Bytes :=
  if (i.gap src j).hasLineFeed then i.gap src j else src.newline

/-- The file with a new text between two neighbouring items. `tail` is the file from the lower one on. -/
def insertedText (src text : Bytes) (upper lower : Option Item) (tail : Bytes) : Bytes :=
  match upper, lower with
  | none, none => text ++ src
  | none, some j => src.take j.node.start ++ text ++ src.newline ++ tail
  | some i, none => src.take i.node.stop ++ src.newline ++ text ++ src.drop i.node.stop
  | some i, some j => src.take i.node.stop ++ src.newline ++ text ++ i.lineGap src j ++ tail

/-- Printed items, and the file after them. -/
def remainder (src : Bytes) : List Printed → Bytes
  | [] => []
  | q :: qs => q.bytes ++ follow src q qs ++ src.drop (stopAfter q.item.node.stop (qs.map Printed.item))

/-! ## The row -/

/-- A piece that does not stand in the file. -/
def newPiece (text : Bytes) : Piece := ⟨text, none, false⟩

section Row
variable {src text : Bytes}

theorem continued_new {i : Item} {is : List Item} {ps : List Piece} (h : (i :: is).IsChain Item.Next) :
    Piece.continued src (i.printed (Item.bytes src)).piece (some i.slot)
        ((is.map (Item.printed (Item.bytes src))).map Printed.piece ++ newPiece text :: ps) =
      laid src (Item.bytes src) i.node.stop is ++ src.newline ++ text ++
        Piece.continued src (newPiece text) (some ((i :: is).getLast (List.cons_ne_nil i is)).slot) ps := by
  induction is generalizing i with
  | nil =>
    -- a piece without a slot comes after a line end, and leaves the anchor at the last item
    rw [List.map_nil, List.map_nil, List.nil_append, Piece.continued, laid, List.nil_append, List.getLast_singleton]
    rfl
  | cons j js ih =>
    obtain ⟨hij, htail⟩ := List.isChain_cons_cons.1 h
    have hanchor : (j.printed (Item.bytes src)).piece.slot.or (some i.slot) = some j.slot := rfl
    have hbytes : (j.printed (Item.bytes src)).piece.bytes = j.bytes src := rfl
    rw [List.map_cons, List.map_cons, List.cons_append, Piece.continued, separator_piece hij, Item.gap_printed, hanchor,
      hbytes, ih htail, laid, List.getLast_cons (List.cons_ne_nil j js), Item.gap]
    simp only [List.append_assoc]

theorem continued_below {i : Item} {q : Printed} {qs : List Printed} (hnext : i.Next q.item)
    (h : ((q :: qs).map Printed.item).IsChain Item.Next) :
    Piece.continued src (newPiece text) (some i.slot) ((q :: qs).map Printed.piece) =
      i.lineGap src q.item ++ q.bytes ++ follow src q qs := by
  have hadjacent : Piece.adjacent i.slot q.item.slot = true := beq_iff_eq.2 hnext
  rw [List.map_cons, Piece.continued, continued_pieces h]
  simp only [Piece.separator, newPiece, Printed.piece, hadjacent, Bool.true_and]
  rfl

theorem continued_top {q : Printed} {qs : List Printed} (h : ((q :: qs).map Printed.item).IsChain Item.Next) :
    Piece.continued src (newPiece text) none ((q :: qs).map Printed.piece) =
      src.newline ++ q.bytes ++ follow src q qs := by
  rw [List.map_cons, Piece.continued, continued_pieces h]
  rfl

end Row

/-! ## The document -/

/-- The document prints the items of its tree in order, and a new text between two of them. -/
structure PrintsAround (above : List Item) (text : Bytes) (below : List Printed) (d : Document) : Prop
    extends Framed d where
  items : Document.items d.root = above ++ below.map Printed.item
  pieces : d.pieces =
    .ok ((above.map (Item.printed (Item.bytes d.source))).map Printed.piece ++ newPiece text :: below.map Printed.piece)

theorem stopAfter_eq_getLast {i : Item} {is : List Item} (pos : Nat) :
    stopAfter pos (i :: is) = ((i :: is).getLast (List.cons_ne_nil i is)).node.stop := by
  induction is generalizing i pos with
  | nil => rfl
  | cons j js ih =>
    rw [stopAfter, ih, List.getLast_cons (List.cons_ne_nil j js)]

theorem take_row_insert {src text : Bytes} {i : Item} {is : List Item} {hi : Nat} {ps : List Piece}
    (hchain : (i :: is).IsChain Item.Next) (horder : Node.InOrder 0 hi ((i :: is).map Item.node)) :
    src.take i.node.start ++
        Piece.row src (((i :: is).map (Item.printed (Item.bytes src))).map Printed.piece ++ newPiece text :: ps) =
      src.take ((i :: is).getLast (List.cons_ne_nil i is)).node.stop ++ src.newline ++ text ++
        Piece.continued src (newPiece text) (some ((i :: is).getLast (List.cons_ne_nil i is)).slot) ps := by
  have hlaid : laid src (Item.bytes src) 0 (i :: is) = src.slice 0 (stopAfter 0 (i :: is)) := laid_bytes horder
  rw [stopAfter_eq_getLast, Bytes.slice, List.drop_zero, laid, Bytes.slice, List.drop_zero] at hlaid
  rw [← hlaid, List.map_cons, List.map_cons, List.cons_append, Piece.row]
  have hslot : (i.printed (Item.bytes src)).piece.slot = some i.slot := rfl
  have hbytes : (i.printed (Item.bytes src)).piece.bytes = i.bytes src := rfl
  rw [hslot, hbytes, continued_new hchain]
  simp only [List.append_assoc]

theorem PrintsAround.renderBytes {above : List Item} {text : Bytes} {below : List Printed} {d : Document}
    (h : d.PrintsAround above text below) (horder : Node.InOrder 0 d.source.length d.root.children) :
    d.renderBytes =
      .ok (insertedText d.source text above.getLast? (below.map Printed.item).head? (remainder d.source below)) := by
  have hchain := isChain_next_items d.root
  have hstart := h.bodyStart
  have hstop : d.bodyStop = stopAfter 0 (Document.items d.root) := by
    rw [h.bodyStop, stopAfter_eq_getLast?, map_node_items]
  rw [← map_node_items] at horder hstart
  rw [h.items] at hchain hstart hstop horder
  rw [Document.renderBytes, h.pieces]
  show Except.ok _ = Except.ok _
  congr 1
  cases above with
  | nil =>
    cases below with
    | nil => simp [hstart, hstop, stopAfter, Piece.row, Piece.continued, newPiece, insertedText]
    | cons q qs =>
      have hslot : (newPiece text).slot = none := rfl
      have hbytes : (newPiece text).bytes = text := rfl
      rw [List.map_nil, List.map_nil, List.nil_append, Piece.row, hslot, hbytes, continued_top hchain, hstart, hstop]
      simp [insertedText, remainder, stopAfter]
  | cons i is =>
    have hupper := (List.isChain_append.1 hchain).1
    have horder' := horder.sublist ((List.sublist_append_left (i :: is) _).map Item.node)
    have hfirst : d.bodyStart = i.node.start := by rw [hstart]; rfl
    rw [hfirst, take_row_insert hupper horder', hstop]
    cases below with
    | nil =>
      rw [List.map_nil, List.map_nil, List.append_nil, stopAfter_eq_getLast,
        List.getLast?_eq_some_getLast (List.cons_ne_nil i is)]
      simp [Piece.continued, insertedText]
    | cons q qs =>
      have hnext : ((i :: is).getLast (List.cons_ne_nil i is)).Next q.item :=
        (List.isChain_append.1 hchain).2.2 _ (List.getLast?_eq_some_getLast (List.cons_ne_nil i is)) _ rfl
      rw [continued_below hnext (List.isChain_append.1 hchain).2.1, stopAfter_append,
        List.getLast?_eq_some_getLast (List.cons_ne_nil i is)]
      simp [insertedText, remainder, stopAfter]

/-! ## What follows a new text -/

/-- A comment that trailed a statement and no longer does. -/
def Item.unhooked (src : Bytes) (i : Item) : Printed := ⟨i, i.bytes src, true⟩

/-- Items after another, each on a line of its own. -/
def onLines (src : Bytes) : Item → List Item → Bytes
  | _, [] => []
  | i, j :: js => i.lineGap src j ++ j.bytes src ++ onLines src j js

section Remainder
variable {src : Bytes}

theorem gap_of_moved {p q : Printed} (h : p.moved = true ∨ q.moved = true) :
    p.gap src q = p.item.lineGap src q.item := by
  have hmoved : (p.moved || q.moved) = true := by simpa using h
  rw [Printed.gap, hmoved, Bool.true_and, Item.lineGap]
  cases (p.item.gap src q.item).hasLineFeed <;> rfl

theorem remainder_printed {lo hi : Nat} {j : Item} {js : List Item}
    (horder : Node.InOrder lo hi ((j :: js).map Item.node)) :
    remainder src ((j :: js).map (Item.printed (Item.bytes src))) = src.drop j.node.start := by
  have hspan := horder.inside j.node List.mem_cons_self
  have hitems : (js.map (Item.printed (Item.bytes src))).map Printed.item = js := by
    rw [List.map_map]
    exact List.map_id js
  have hfollow := follow_printed src (Item.bytes src) j js
  rw [laid_bytes horder.tail] at hfollow
  rw [List.map_cons, remainder, hitems, hfollow]
  show src.slice j.node.start j.node.stop ++ _ ++ src.drop (stopAfter j.node.stop js) = _
  rw [src.slice_append_slice hspan.2.1 (le_stopAfter horder.tail),
    src.slice_append_drop (Nat.le_trans hspan.2.1 (le_stopAfter horder.tail))]

/-- Comments that lost their place stand on lines of their own, and so does what follows them. -/
theorem follow_unhooked {p : Printed} {ts : List Item} {n : Item} {ns : List Item} (h : p.moved = true ∨ ts ≠ []) :
    follow src p (ts.map (Item.unhooked src) ++ (n :: ns).map (Item.printed (Item.bytes src))) =
      onLines src p.item (ts ++ [n]) ++ laid src (Item.bytes src) n.node.stop ns := by
  induction ts generalizing p with
  | nil =>
    -- the item after the last comment is not moved itself, but the comment before it is
    have hmoved := h.resolve_right (fun hne => hne rfl)
    rw [List.map_nil, List.nil_append, List.nil_append, List.map_cons, follow, gap_of_moved (.inl hmoved),
      follow_printed, onLines, onLines, List.append_nil]
    rfl
  | cons t ts ih =>
    rw [List.map_cons, List.cons_append, List.cons_append, follow, gap_of_moved (.inr rfl), ih (.inl rfl), onLines]
    simp only [List.append_assoc]
    rfl

theorem remainder_unhooked {lo hi : Nat} {j : Item} {ts : List Item} {n : Item} {ns : List Item} (hts : ts ≠ [])
    (horder : Node.InOrder lo hi ((n :: ns).map Item.node)) :
    remainder src (j.printed (Item.bytes src) :: (ts.map (Item.unhooked src) ++
        (n :: ns).map (Item.printed (Item.bytes src)))) =
      j.bytes src ++ onLines src j (ts ++ [n]) ++ src.drop n.node.stop := by
  have hitems : (ts.map (Item.unhooked src) ++ (n :: ns).map (Item.printed (Item.bytes src))).map Printed.item =
      ts ++ n :: ns := by
    rw [List.map_append, List.map_map, List.map_map]
    exact congrArg₂ (· ++ ·) (List.map_id ts) (List.map_id (n :: ns))
  rw [remainder, hitems, follow_unhooked (.inr hts), stopAfter_append, stopAfter, laid_bytes horder.tail]
  simp only [List.append_assoc]
  rw [src.slice_append_drop (le_stopAfter horder.tail)]
  rfl

end Remainder

end Document
end CallRedirect
