import CallRedirect.Text.Join

/-! # Import specifiers

One entry of an import declaration: a name out of a module, its default export, or all of it under one name.

* `Specifier.print`: the entry as it stands in a declaration.
* `Specifier.key`, `dedup`: of several entries under one key the last one is kept, at the place of the first.
-/

namespace CallRedirect
set_option autoImplicit false

/-- What an entry takes out of the module. -/
inductive Specifier.Form where
  | named
  | default
  /-- All exports, as the members of one object. -/
  | star
  deriving DecidableEq, Repr

structure Specifier where
  form : Specifier.Form
  /-- The exported name, for a named entry. -/
  imported : Option String := none
  /-- The name it is bound to; a named entry without one is bound to the exported name. -/
  localName : Option String := none
  /-- A named entry that imports a type only. -/
  typeOnly : Bool := false
  deriving DecidableEq, Repr

namespace Specifier

/-- The entry for an exported name, perhaps under another one. -/
def ofName (imported : String) (localName : Option String) : Specifier where
  form := .named
  imported := some imported
  localName := if localName = some imported then none else localName

/-! ## Printing -/

/-- What a named entry says about the name it is bound to. -/
def aliasClause (s : Specifier) : String :=
  match s.localName with
  | none => ""
  | some l => if l.isEmpty || s.imported == some l then "" else " as " ++ l

def print (s : Specifier) : String :=
  match s.form with
  | .default => s.localName.getD ""
  | .star => "* as " ++ Text.orNone s.localName
  | .named => (if s.typeOnly then "type " else "") ++ Text.orNone s.imported ++ s.aliasClause

/-! ## One entry for each key -/

/-- Entries of one key exclude each other: there is one default, one object of all exports, and one entry for
each exported name. -/
def key (s : Specifier) : String :=
  match s.form with
  | .default => "__default__"
  | .star => "__namespace__"
  | .named => s.imported.getD ""

/-- Puts an entry in the place of the one with its key, or at the end. -/
def put (s : Specifier) : List Specifier → List Specifier
  | [] => [s]
  | t :: rest => if t.key = s.key then s :: rest else t :: put s rest

/-- One entry for each key, in the order of first occurrence, the last one for each. -/
def dedup (ss : List Specifier) : List Specifier := ss.foldl (fun kept s => put s kept) []

end Specifier
end CallRedirect
