import CallRedirect.Document.Basic

/-! # Layout

A document prints as a row of pieces: the comments of the file, then every statement between its leading and its
trailing comments. Two pieces that were neighbours in the file keep what stood between them. A new piece stands on a
line of its own, and the piece after it keeps the gap to the last old piece before it, if that gap ends a line. A
comment that trailed a statement and no longer does is put on its own line. Everything else is parted by a line end.

`Document.render` prints a document; a document as it was read prints as its file.
-/

namespace CallRedirect
set_option autoImplicit false

/-- One item in the printed row. -/
structure Piece where
  bytes : Bytes
  slot : Option Slot
  /-- A comment that trailed a statement when it was read, and does not now. -/
  moved : Bool := false
  deriving DecidableEq

namespace Piece

def ofComment (src : Bytes) (placement : Placement) (c : Comment) : Piece where
  bytes := c.bytes src
  slot := c.slot
  moved := c.placement == .trailing && placement != .trailing

/-! ## Separators -/

/-- What stood between two slots of the file. -/
def gap (src : Bytes) (left right : Slot) : Bytes := src.slice left.stop right.start

/-- The two slots were neighbours, in this order. -/
def adjacent (left right : Slot) : Bool := right.ordinal == left.ordinal + 1

/-- What is put between two pieces. `anchor` is the slot of the last piece before `current` that has one. -/
def separator (src : Bytes) (previous current : Piece) (anchor : Option Slot) : Bytes :=
  match previous.slot, current.slot, anchor with
  | some left, some right, _ =>
    if adjacent left right then
      if (previous.moved || current.moved) && !(gap src left right).hasLineFeed then src.newline
      else gap src left right
    else src.newline
  | none, some right, some left =>
    if adjacent left right && (gap src left right).hasLineFeed then gap src left right
    else src.newline
  | _, _, _ => src.newline

/-- The pieces after the first, each with what is put before it. -/
def continued (src : Bytes) (previous : Piece) (anchor : Option Slot) : List Piece → Bytes
  | [] => []
  | p :: rest =>
    separator src previous p anchor ++ p.bytes ++ continued src p (p.slot.or anchor) rest

/-- The printed row. -/
def row (src : Bytes) : List Piece → Bytes
  | [] => []
  | p :: rest => p.bytes ++ continued src p p.slot rest

end Piece

/-- A statement between its comments. -/
def Statement.pieces (src : Bytes) (s : Statement) : Except Failure (List Piece) :=
  (s.render src).map fun bytes =>
    s.leading.map (Piece.ofComment src .leading) ++ ⟨bytes, s.slot, false⟩ ::
      s.trailing.map (Piece.ofComment src .trailing)

namespace Document

/-- All pieces of a document, in the order in which they print. -/
def pieces (d : Document) : Except Failure (List Piece) := do
  let statements ← d.statements.mapM (Statement.pieces d.source)
  return d.comments.map (Piece.ofComment d.source .file) ++ statements.flatten

/-- The bytes of a document. -/
def renderBytes (d : Document) : Except Failure Bytes := do
  let pieces ← d.pieces
  return d.source.take d.bodyStart ++ Piece.row d.source pieces ++ d.source.drop d.bodyStop

/-- The text of a document. -/
def render (d : Document) : Except Failure String := do
  let bytes ← d.renderBytes
  bytes.decode

end Document
end CallRedirect
