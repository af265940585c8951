import CallRedirect.Import.Declaration
import CallRedirect.Node.Basic

/-! # Reading import declarations off a tree

`ImportDecl.ofNode?` decodes an import statement. One that assigns the result of a `require` call, or that names no
module, is no import declaration.
-/

namespace CallRedirect
set_option autoImplicit false

namespace Specifier

/-- One of the two keywords that make an import one of types stands among the children. -/
def marksTypes (n : Node) : Bool := n.hasToken "type" || n.hasToken "typeof"

/-- A named entry. -/
def ofNode (src : Bytes) (n : Node) : Specifier where
  form := .named
  imported := (n.child? "name").map (Node.text src)
  localName := (n.child? "alias").map (Node.text src)
  typeOnly := marksTypes n

/-- The entries that a part of an import clause holds. -/
def ofClausePart (src : Bytes) (part : Node) : List Specifier :=
  match part.kind with
  | "identifier" => [⟨.default, none, some (part.text src), false⟩]
  | "namespace_import" =>
    [⟨.star, none, (part.namedChildrenOfKind "identifier").head?.map (Node.text src), false⟩]
  | "named_imports" => (part.namedChildrenOfKind "import_specifier").map (ofNode src)
  | _ => []

end Specifier

namespace ImportDecl

/-- The text of the import attributes, in either of their two spellings. -/
def attributesOf (src : Bytes) (n : Node) : Option String :=
  ((n.namedChildren.filter fun c => c.kind == "import_attribute" || c.kind == "import_assertion").getLast?).map
    (Node.text src)

/-- The entries of an import clause; none without a clause. -/
def specifiersOf (src : Bytes) (n : Node) : List Specifier :=
  match (n.namedChildrenOfKind "import_clause").getLast? with
  | none => []
  | some clause => clause.namedChildren.flatMap (Specifier.ofClausePart src)

/-- The declaration that an import statement spells. -/
def ofNode? (src : Bytes) (n : Node) : Option ImportDecl :=
  if n.namedChildren.any fun c => c.kind == "import_require_clause" then none
  else (n.child? "source").map fun origin =>
    { origin := Text.unquoted (origin.text src)
      specifiers := specifiersOf src n
      typeOnly := Specifier.marksTypes n
      attributes := attributesOf src n }

end ImportDecl
end CallRedirect
