import CallRedirect.Document.Basic
import CallRedirect.Import.Reading
import CallRedirect.Node.Site

/-! # Attaching comments

The items on the top level of a file are statements and comments. Every comment is attached to the file, or to the
statement after it, or to the one before it:

* a hash-bang line, all comments of a file without statements, and the comments above the first statement down to
  the last blank line above it belong to the file;
* a comment that starts on the line where a statement, or a comment trailing it, ends trails that statement;
* any other comment leads the next statement, or trails the last one.

`Document.ofFlagged` and `Document.ofTree` read a document off a tree, unless the text does not fit the grammar.
-/

namespace CallRedirect
set_option autoImplicit false

namespace Document

/-! ## Items -/

/-- A child of the root and its number. -/
structure Item where
  node : Node
  ordinal : Nat

namespace Item

def isComment (i : Item) : Bool :=
  i.node.kind == "comment" || i.node.kind == "html_comment" || i.node.kind == "hash_bang_line"

def isHashBang (i : Item) : Bool := i.node.kind == "hash_bang_line"

def slot (i : Item) : Slot := ⟨i.ordinal, i.node.start, i.node.stop⟩

def comment (src : Bytes) (placement : Placement) (i : Item) : Comment :=
  ⟨i.node.text src, placement, some i.slot⟩

/-- What stands between two items. -/
def gap (src : Bytes) (left right : Item) : Bytes := src.slice left.node.stop right.node.start

/-- A statement with the comments attached to it. -/
def statement (src : Bytes) (i : Item) (leading trailing : List Item) : Statement where
  form :=
    if i.node.kind == "import_statement" then
      match ImportDecl.ofNode? src i.node with
      | some decl => .importing decl
      | none => .plain i.node.kind
    else .plain i.node.kind
  slot := some i.slot
  leading := leading.map (comment src .leading)
  trailing := trailing.map (comment src .trailing)

end Item

/-- The items of a file. -/
def items (root : Node) : List Item := root.children.zipIdx.map fun (n, i) => ⟨n, i⟩

/-! ## The header -/

/-- The number of items down to the last gap that holds a blank line. -/
def downToBlankLine (src : Bytes) : List Item → Nat
  | a :: b :: rest =>
    match downToBlankLine src (b :: rest) with
    | 0 => if 2 ≤ (a.gap src b).lineFeeds then 1 else 0
    | n + 1 => n + 2
  | _ => 0

/-- How many of the comments above the first statement belong to the file. -/
def headerLength (src : Bytes) (above : List Item) (first : Item) : Nat :=
  max (if above.head?.any Item.isHashBang then 1 else 0) (downToBlankLine src (above ++ [first]))

/-! ## Groups -/

/-- A statement and the comments that go with it. -/
structure Group where
  leading : List Item
  item : Item
  trailing : List Item := []

/-- The groups of the items that follow. `current` is the group of the last statement, `waiting` are the comments
since then that do not trail it, and `position` is where the last item ended. -/
def groups (src : Bytes) (current : Group) (waiting : List Item) (position : Nat) :
    List Item → List Group
  | [] => [{ current with trailing := current.trailing ++ waiting }]
  | i :: rest =>
    if !i.isComment then
      current :: groups src { leading := waiting, item := i } [] i.node.stop rest
    else if waiting.isEmpty && !(src.slice position i.node.start).hasLineFeed then
      groups src { current with trailing := current.trailing ++ [i] } [] i.node.stop rest
    else
      groups src current (waiting ++ [i]) i.node.stop rest

def Group.statement (src : Bytes) (g : Group) : Statement := g.item.statement src g.leading g.trailing

/-! ## The document of a tree -/

/-- The document of a tree without faults. -/
def ofItems (src : Bytes) (root : Node) : Document :=
  let all := items root
  let body : Document :=
    { source := src
      root := root
      bodyStart := (root.children.head?.map Node.start).getD 0
      bodyStop := (root.children.getLast?.map Node.stop).getD 0 }
  let above := all.takeWhile Item.isComment
  match all.dropWhile Item.isComment with
  | [] => { body with comments := above.map (Item.comment src .file) }
  | first :: rest =>
    let n := headerLength src above first
    { body with
      comments := (above.take n).map (Item.comment src .file)
      statements :=
        (groups src { leading := above.drop n, item := first } [] first.node.stop rest).map
          (Group.statement src) }

/-- The document of a tree and the flag that the parser has set for it; fails if the text does not fit the grammar. -/
def ofFlagged (dialect : Dialect) (src : Bytes) (root : Node) (hasError : Bool) : Except Failure Document :=
  match root.fault? hasError with
  | some n => .error (.malformed dialect (n.line src) (n.column src))
  | none => .ok (ofItems src root)

/-- The document of a tree with a flag as its nodes demand it; fails at the first node where the text does not fit the
grammar. -/
def ofTree (dialect : Dialect) (src : Bytes) (root : Node) : Except Failure Document :=
  ofFlagged dialect src root root.hasFaulty

end Document
end CallRedirect
