import CallRedirect.Import.Specifier
import CallRedirect.Text.Quoted

/-! # Import declarations

An import declaration names a module and lists what is taken out of it. `ImportDecl.print` writes it: the default
first, then the object of all exports, then the named entries in braces.
-/

namespace CallRedirect
set_option autoImplicit false

structure ImportDecl where
  /-- The module, as its string literal spells it between the quotes. -/
  origin : String
  specifiers : List Specifier
  /-- The whole declaration imports types only. -/
  typeOnly : Bool := false
  /-- The text of the import attributes. -/
  attributes : Option String := none
  deriving DecidableEq, Repr

namespace ImportDecl

/-- The entries of one form, in order. -/
def ofForm (d : ImportDecl) (form : Specifier.Form) : List Specifier :=
  d.specifiers.filter fun s => s.form == form

/-- Takes all exports under one name; such a declaration has no room for named entries. -/
def isStarForm (d : ImportDecl) : Bool := d.specifiers.any fun s => s.form == .star

/-- Imports the name as a value. -/
def imports (d : ImportDecl) (name : String) : Bool :=
  d.specifiers.any fun s => s.form == .named && s.imported == some name && !s.typeOnly

/-- The declaration with one more entry. -/
def merge (d : ImportDecl) (s : Specifier) : ImportDecl :=
  { d with specifiers := Specifier.dedup (d.specifiers ++ [s]) }

/-! ## Printing -/

/-- The named entries in braces; nothing if there are none. -/
def namedClause (d : ImportDecl) : List String :=
  match d.ofForm .named with
  | [] => []
  | named => ["\x7b " ++ Text.joined ", " (named.map Specifier.print) ++ " \x7d"]

def clauses (d : ImportDecl) : List String :=
  (d.ofForm .default ++ d.ofForm .star).map Specifier.print ++ d.namedClause

/-- What stands between the keyword and the module. -/
def bindingClause (d : ImportDecl) : String :=
  match d.clauses with
  | [] => ""
  | clauses => Text.joined ", " clauses ++ " from "

def attributeClause (d : ImportDecl) : String :=
  match d.attributes with
  | none => ""
  | some a => if a.isEmpty then "" else " " ++ a

def print (d : ImportDecl) : String :=
  (if d.typeOnly then "import type " else "import ") ++ d.bindingClause ++ Text.quoted d.origin ++
    d.attributeClause ++ ";"

end ImportDecl
end CallRedirect
