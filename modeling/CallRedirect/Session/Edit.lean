import CallRedirect.Session.Ensure
import CallRedirect.Session.Redirect

/-! # Edits

The changes that can be made to a document in a session, and the questions that can be asked about it, as data.
`Session.apply` carries one out.
-/

namespace CallRedirect
set_option autoImplicit false

/-- A list of comments in a document. -/
inductive Bucket where
  | file
  | leading (statement : Nat)
  | trailing (statement : Nat)
  deriving DecidableEq, Repr

inductive Edit where
  | ensure (request : Request)
  | census (origin : String)
  | redirect (target : Target)
  | insertAtTop (decl : ImportDecl)
  | insertAfterImports (decl : ImportDecl)
  | insertImport (index : Nat) (decl : ImportDecl)
  | insertPlain (index : Nat) (kind : String) (verbatim : Bool)
  | remove (index : Nat)
  | move (source destination : Nat)
  | addComment (bucket : Bucket) (text : String) (placement : Placement)
  | moveComment (source : Bucket) (index : Nat) (destination : Bucket)
  | statementAt (offset : Nat)
  | imports (index : Nat) (name : String)
  | look (index : Nat)

inductive Answer where
  | nothing
  | flag (value : Bool)
  | count (value : Nat)
  | index (value : Option Nat)
  | word (value : String)
  | census (value : Census)
  | statement (value : Statement)

namespace Document

/-- The document with its statements changed. -/
def withStatements (d : Document) (statements : List Statement) : Document := { d with statements := statements }

def bucket (d : Document) : Bucket → List Comment
  | .file => d.comments
  | .leading i => (d.statements[i]?.map Statement.leading).getD []
  | .trailing i => (d.statements[i]?.map Statement.trailing).getD []

/-- The document with the comments of a bucket changed. -/
def modifyBucket (d : Document) (b : Bucket) (f : List Comment → List Comment) : Document :=
  match b with
  | .file => { d with comments := f d.comments }
  | .leading i => d.modify i fun s => { s with leading := f s.leading }
  | .trailing i => d.modify i fun s => { s with trailing := f s.trailing }

/-- Takes a statement out. -/
def remove (d : Document) (i : Nat) : Document := d.withStatements (d.statements.eraseIdx i)

/-- Takes a statement out and puts it in again. -/
def move (d : Document) (source destination : Nat) : Document :=
  match d.statements[source]? with
  | some s => (d.remove source).insert destination s
  | none => d

/-- Takes a comment out of a bucket and puts it at the end of another. -/
def moveComment (d : Document) (source : Bucket) (i : Nat) (destination : Bucket) : Document :=
  match (d.bucket source)[i]? with
  | some c => (d.modifyBucket source (·.eraseIdx i)).modifyBucket destination (· ++ [c])
  | none => d

end Document

namespace Session

/-- The session with its document changed, and no other answer. -/
def change (s : Session) (d : Document) : Answer × Session := (.nothing, { s with document := d })

/-- Puts an import at the top; answers with the letter of the case. -/
def insertAtTop (s : Session) (decl : ImportDecl) : Answer × Session :=
  let (top, d) := s.document.insertAtTop (Statement.ofImport decl)
  let inserted : Session := { s with document := d }
  (.word top.letter, if top = .shared then inserted.tell .commentsMoved else inserted)

/-- Carries out an edit. -/
def apply (s : Session) : Edit → Except Failure (Answer × Session)
  | .ensure r => do
    let (changed, s) ← s.ensure r
    return (.flag changed, s)
  | .census origin => do
    let census ← s.document.census origin
    return (.census census, s)
  | .redirect t => do
    let (count, s) ← s.redirect t
    return (.count count, s)
  | .insertAtTop decl => return s.insertAtTop decl
  | .insertAfterImports decl =>
    match s.document.insertAfterImports? (Statement.ofImport decl) with
    | some d => return (.flag true, { s with document := d })
    | none => return (.flag false, s)
  | .insertImport i decl => return s.change (s.document.insert i (Statement.ofImport decl))
  | .insertPlain i kind verbatim =>
    return s.change (s.document.insert i { form := .plain kind, verbatim := verbatim })
  | .remove i =>
    return (.word ((s.document.statements[i]?.map Statement.kind).getD ""),
      { s with document := s.document.remove i })
  | .move source destination => return s.change (s.document.move source destination)
  | .addComment bucket text placement =>
    return s.change (s.document.modifyBucket bucket (· ++ [⟨text, placement, none⟩]))
  | .moveComment source i destination => return s.change (s.document.moveComment source i destination)
  | .statementAt offset => return (.index (s.document.statementAt? offset), s)
  | .imports i name =>
    return (.flag ((s.document.statements[i]?.bind Statement.import?).any fun decl => decl.imports name), s)
  | .look i =>
    return (((s.document.statements[i]?).map Answer.statement).getD .nothing, s)

end Session
end CallRedirect
