import CallRedirect.Import.Census
import CallRedirect.Import.Insertion
import CallRedirect.Session.Basic

/-! # Ensuring an import

`Session.ensure` sees to it that a document imports a name from a module: nothing changes if it does so already; else the
name is added to the declaration that has room for it, or a declaration of its own is put in.
-/

namespace CallRedirect
set_option autoImplicit false

/-- A name to be imported from a module, perhaps under another name. -/
structure Request where
  name : String
  origin : String
  localName : Option String := none
  deriving DecidableEq, Repr

namespace Request

def specifier (r : Request) : Specifier := Specifier.ofName r.name r.localName

/-- The import that meets the request by itself. -/
def statement (r : Request) : Statement := Statement.ofImport { origin := r.origin, specifiers := [r.specifier] }

end Request

/-- The import with one more entry; it no longer prints as it stands in the file. -/
def Statement.merge (s : Statement) (decl : ImportDecl) (spec : Specifier) : Statement :=
  { s with form := .importing (decl.merge spec), verbatim := false, replacements := [] }

namespace Session

def noteImport (s : Session) (action : String) (r : Request) : Session :=
  s.note (.importAction action r.origin r.name)

/-- Adds the requested name to the declaration at an index. -/
def mergeInto (s : Session) (r : Request) (i : Nat) (decl : ImportDecl) : Session :=
  let merged := { s with document := s.document.modify i fun st => st.merge decl r.specifier }
  (merged.noteImport "merged" r).tell (.merged r.name r.origin)

/-- Puts in a declaration for the request. -/
def insertImport (s : Session) (r : Request) : Session :=
  match s.document.insertAfterImports? r.statement with
  | some d => { s with document := d }.noteImport "inserted after imports" r
  | none =>
    let (top, d) := s.document.insertAtTop r.statement
    let inserted : Session := { s with document := d }
    let told := if top = .shared then inserted.tell .commentsMoved else inserted
    told.noteImport ("inserted at top (case " ++ top.letter ++ ")") r

/-- Sees to it that the document imports the requested name; says whether the document changed. -/
def ensure (r : Request) (s : Session) : Except Failure (Bool × Session) := do
  let census ← s.document.census r.origin
  let room := census.mergeable.head?.bind fun i =>
    (s.document.statements[i]?.bind Statement.import?).map fun decl => (i, decl)
  match room with
  | some (i, decl) =>
    if decl.imports r.name then return (false, s.noteImport "already present" r)
    else return (true, s.mergeInto r i decl)
  | none => return (true, s.insertImport r)

end Session
end CallRedirect
