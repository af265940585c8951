import CallRedirect.Document.Basic

/-! # Where a new import goes

Right after the last import of the file, if it has one. Otherwise at the top, and then the comments of the first
statement are shared out so that none is lost:

* below the comments of the file, if there are any, or above a first statement without comments;
* else the new import takes the leading comments of the first statement, and the trailing ones go to the front of the
  second statement, or stay where they are if there is none.
-/

namespace CallRedirect
set_option autoImplicit false

/-- How an import came to the top of a document. -/
inductive TopCase where
  /-- Below the comments of the file. -/
  | belowHeader
  /-- Above a statement without comments, or above nothing. -/
  | bare
  /-- The comments of the first statement went to the import and to the second statement. -/
  | shared
  /-- The leading comments of the only statement went to the import. -/
  | alone
  deriving DecidableEq, Repr

def TopCase.letter : TopCase → String
  | belowHeader => "a"
  | bare => "b"
  | shared => "c"
  | alone => "d"

namespace Document

/-- Puts a statement at the top. -/
def insertAtTop (d : Document) (s : Statement) : TopCase × Document :=
  if !d.comments.isEmpty then (.belowHeader, d.insert 0 s)
  else
    match d.statements with
    | [] => (.bare, d.insert 0 s)
    | first :: rest =>
      if !first.hasComments then (.bare, d.insert 0 s)
      else
        match rest with
        | second :: rest =>
          (.shared, { d with
            statements :=
              { s with leading := first.leading } ::
              { first with leading := [], trailing := [] } ::
              { second with leading := first.trailing ++ second.leading } :: rest })
        | [] =>
          (.alone, { d with
            statements := [{ s with leading := first.leading }, { first with leading := [] }] })

/-- Puts a statement right after the last import; `none` if there is no import. -/
def insertAfterImports? (d : Document) (s : Statement) : Option Document :=
  d.imports.getLast?.map fun (i, _) => d.insert (i + 1) s

end Document
end CallRedirect
