import CallRedirect.Failure
import CallRedirect.Import.Declaration
import CallRedirect.Node.Basic
import CallRedirect.Replacement

/-! # Documents

A document is a file as a list of statements with the comments attached to them. What was read from the file keeps
the slot it had there; what is new has none.

* `Statement`: a statement of the file, printed as it stands there but for its replacements, or a new import.
* `Document`: the statements, the comments that belong to none of them, and the file they came from.
-/

namespace CallRedirect
set_option autoImplicit false

/-- Where an item stood in the file: its number among the items on the top level, and its span. -/
structure Slot where
  ordinal : Nat
  start : Nat
  stop : Nat
  deriving DecidableEq, Repr

/-! ## Comments -/

/-- What a comment is attached to. -/
inductive Placement where
  /-- No statement. -/
  | file
  /-- The statement after it. -/
  | leading
  /-- The statement before it. -/
  | trailing
  deriving DecidableEq, Repr

def Placement.name : Placement → String
  | file => "file"
  | leading => "leading"
  | trailing => "trailing"

structure Comment where
  text : String
  /-- The placement it was given when it came into the document; it may be moved later. -/
  placement : Placement
  slot : Option Slot := none
  deriving DecidableEq, Repr

/-- A comment that has an end mark of its own, and not the end of a line. -/
def Comment.isBlock (c : Comment) : Bool := c.text.startsWith "/*"

/-- The bytes of a comment: those of its slot, if it has one. -/
def Comment.bytes (src : Bytes) (c : Comment) : Bytes :=
  match c.slot with
  | some slot => src.slice slot.start slot.stop
  | none => Bytes.ofString c.text

/-! ## Statements -/

/-- An import declaration, or any other statement, of which only the kind is known. -/
inductive Statement.Form where
  | plain (kind : String)
  | importing (decl : ImportDecl)
  deriving DecidableEq, Repr

structure Statement where
  form : Statement.Form
  slot : Option Slot := none
  /-- The text of the statement is the one at its slot. -/
  verbatim : Bool := true
  leading : List Comment := []
  trailing : List Comment := []
  /-- The replacements inside that text. -/
  replacements : List Replacement := []
  deriving DecidableEq, Repr

namespace Statement

/-- A new import. -/
def ofImport (decl : ImportDecl) : Statement := { form := .importing decl, verbatim := false }

def kind (s : Statement) : String :=
  match s.form with
  | .plain kind => kind
  | .importing _ => "import_statement"

def import? (s : Statement) : Option ImportDecl :=
  match s.form with
  | .plain _ => none
  | .importing decl => some decl

def isImport (s : Statement) : Bool := s.import?.isSome

def hasComments (s : Statement) : Bool := !s.leading.isEmpty || !s.trailing.isEmpty

/-- The text of a statement that does not print as it stands in the file. -/
def generate (s : Statement) : Except Failure Bytes :=
  match s.form with
  | .plain kind => .error (.unprintable kind)
  | .importing decl => .ok (Bytes.ofString decl.print)

/-- The text of a statement, without its comments. -/
def render (src : Bytes) (s : Statement) : Except Failure Bytes :=
  match s.verbatim, s.slot with
  | true, some slot =>
    match Replacement.splice src s.replacements slot.start slot.stop with
    | some bytes => .ok bytes
    | none => .error .endless
  | _, _ => s.generate

/-- The statement still prints the text of the file that starts at an offset. -/
def standsAt (offset : Nat) (s : Statement) : Bool :=
  s.verbatim && s.slot.any fun slot => slot.start == offset

end Statement

/-! ## Documents -/

structure Document where
  source : Bytes
  /-- The tree of the file; it does not follow the changes to the document. -/
  root : Node
  statements : List Statement := []
  /-- The comments attached to no statement. -/
  comments : List Comment := []
  /-- The file before this offset precedes all items, and from `bodyStop` on it follows them. -/
  bodyStart : Nat := 0
  bodyStop : Nat := 0

namespace Document

/-- The import declarations, each with its index among the statements. -/
def imports (d : Document) : List (Nat × ImportDecl) :=
  d.statements.zipIdx.filterMap fun (s, i) => s.import?.map fun decl => (i, decl)

/-- The index of the statement that prints the text of the file that starts at an offset. -/
def statementAt? (d : Document) (offset : Nat) : Option Nat :=
  d.statements.findIdx? (Statement.standsAt offset)

/-- The document with a statement put before the one at an index, or at the end. -/
def insert (d : Document) (i : Nat) (s : Statement) : Document :=
  { d with statements := d.statements.take i ++ s :: d.statements.drop i }

/-- The document with the statement at an index changed. -/
def modify (d : Document) (i : Nat) (f : Statement → Statement) : Document :=
  { d with statements := d.statements.modify i f }

end Document
end CallRedirect
