import CallRedirect.Document.Basic

/-! # The imports from one module

The declarations of a document that import from a module are of three sorts: those of types only, those that take all
exports under one name, and those that have room for another named entry. At most one may be of the last two sorts.
-/

namespace CallRedirect
set_option autoImplicit false

/-- The indices of the declarations that import from a module, by sort. -/
structure Census where
  mergeable : List Nat
  starForm : List Nat
  typeOnly : List Nat
  deriving DecidableEq, Repr

namespace Document

/-- The declarations that import from a module, with their indices. -/
def importsFrom (d : Document) (origin : String) : List (Nat × ImportDecl) :=
  d.imports.filter fun p => p.2.origin == origin

/-- Those of them that import values. -/
def valueImportsFrom (d : Document) (origin : String) : List (Nat × ImportDecl) :=
  (d.importsFrom origin).filter fun p => !p.2.typeOnly

/-- The line of a statement that stands in the file. -/
def lineOf? (d : Document) (i : Nat) : Option Nat :=
  (d.statements[i]?.bind Statement.slot).map fun slot => d.source.line slot.start

/-- The census of a module; fails if several declarations import values from it. -/
def census (d : Document) (origin : String) : Except Failure Census :=
  let values := d.valueImportsFrom origin
  if 1 < values.length then
    .error (.rivalImports origin values.length (values.filterMap fun p => d.lineOf? p.1))
  else
    .ok {
      mergeable := (values.filter fun p => !p.2.isStarForm).map Prod.fst
      starForm := (values.filter fun p => p.2.isStarForm).map Prod.fst
      typeOnly := ((d.importsFrom origin).filter fun p => p.2.typeOnly).map Prod.fst }

end Document
end CallRedirect
