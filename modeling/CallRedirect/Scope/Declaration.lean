import CallRedirect.Scope.Pattern

/-! # Declarations

What a node declares by itself, apart from the nodes inside it. Each declaration says how far its name reaches:

* parameters, the parameter of a catch clause, the lexical head of a for-in or for-of loop, and the name of a function
  or class expression belong to the scope that the node opens;
* lexical, function, class, enum and namespace declarations belong to the scope around the node;
* a `var` belongs to the nearest function around the node;
* an import belongs to the program.

Interfaces and type aliases declare no values.
-/

namespace CallRedirect
set_option autoImplicit false

/-- The construct that declares a name. -/
inductive Binding.Kind where
  | param
  | varDecl
  | letDecl
  | constDecl
  | functionDecl
  | classDecl
  | importDecl
  | catchParam
  | enumDecl
  | namespaceDecl
  deriving DecidableEq, Repr

def Binding.Kind.name : Binding.Kind → String
  | param => "parameter"
  | varDecl => "var"
  | letDecl => "let"
  | constDecl => "const"
  | functionDecl => "function"
  | classDecl => "class"
  | importDecl => "import"
  | catchParam => "catch"
  | enumDecl => "enum"
  | namespaceDecl => "namespace"

/-- The scope that a declaration belongs to, as seen from the declaring node. -/
inductive Reach where
  /-- The scope that the node opens, or the one around it if it opens none. -/
  | own
  /-- The scope around the node. -/
  | around
  /-- The nearest function, or the program, around the node. -/
  | function
  | program
  deriving DecidableEq, Repr

structure Declaration where
  /-- The identifier that is declared. -/
  name : Node
  kind : Binding.Kind
  reach : Reach

namespace Declaration

/-- The names of a pattern. -/
def ofPattern (kind : Binding.Kind) (reach : Reach) (pattern : Option Node) : List Declaration :=
  (Node.patternNames pattern).map fun n => ⟨n, kind, reach⟩

/-- The name of a declared function, class or enum. -/
def ofName (kind : Binding.Kind) (reach : Reach) (n : Node) : List Declaration :=
  ((n.child? "name").filter fun c => c.kind == "identifier" || c.kind == "type_identifier").toList.map fun c =>
    ⟨c, kind, reach⟩

/-- The names of a namespace or module with a simple name. -/
def ofNamespace (n : Node) : List Declaration :=
  ((n.child? "name").filter fun c => c.kind == "identifier").toList.map fun c => ⟨c, .namespaceDecl, .around⟩

/-- The names of the declarators of a declaration. -/
def ofDeclarators (kind : Binding.Kind) (reach : Reach) (n : Node) : List Declaration :=
  (n.namedChildrenOfKind "variable_declarator").flatMap fun d => ofPattern kind reach (d.child? "name")

/-- The parameters of a function: a single one without parentheses, or a list. -/
def ofParameters (n : Node) : List Declaration :=
  ofPattern .param .own (n.child? "parameter") ++
    match n.child? "parameters" with
    | none => []
    | some params => params.namedChildren.flatMap fun p => ofPattern .param .own (some p)

/-- The kind that a keyword of a lexical declaration stands for. -/
def lexicalKind (keyword : String) : Binding.Kind := if keyword == "const" then .constDecl else .letDecl

/-- The names that the head of a for-in or for-of loop declares; none if it has no keyword. -/
def ofLoopHead (src : Bytes) (n : Node) : List Declaration :=
  match n.child? "kind" with
  | none => []
  | some keyword =>
    if keyword.text src == "var" then ofPattern .varDecl .function (n.child? "left")
    else ofPattern (lexicalKind (keyword.text src)) .own (n.child? "left")

/-! ## Imports -/

/-- The identifier that a named import binds. -/
def importedName (n : Node) : Option Node :=
  ((n.child? "alias").or (n.child? "name")).filter fun c => c.kind == "identifier"

/-- The identifiers that a part of an import clause binds. -/
def importedNames (part : Node) : List Node :=
  match part.kind with
  | "identifier" => [part]
  | "namespace_import" => part.namedChildrenOfKind "identifier"
  | "named_imports" => (part.namedChildrenOfKind "import_specifier").filterMap importedName
  | _ => []

/-- The identifiers that a part of an import statement binds. -/
def importLocals (child : Node) : List Node :=
  match child.kind with
  | "import_require_clause" => child.namedChildrenOfKind "identifier"
  | "import_clause" => child.namedChildren.flatMap importedNames
  | _ => []

def ofImport (n : Node) : List Declaration :=
  (n.namedChildren.flatMap importLocals).map fun c => ⟨c, .importDecl, .program⟩

end Declaration

/-- What a node declares. -/
def Node.declarations (src : Bytes) (n : Node) : List Declaration :=
  match n.kind with
  | "variable_declaration" => Declaration.ofDeclarators .varDecl .function n
  | "lexical_declaration" =>
    Declaration.ofDeclarators
      (Declaration.lexicalKind (((n.child? "kind").map (Node.text src)).getD "")) .around n
  | "function_declaration" | "generator_function_declaration" =>
    Declaration.ofName .functionDecl .around n ++ Declaration.ofParameters n
  | "function_signature" => Declaration.ofName .functionDecl .around n
  | "function" | "function_expression" | "generator_function" =>
    Declaration.ofName .functionDecl .own n ++ Declaration.ofParameters n
  | "arrow_function" | "method_definition" => Declaration.ofParameters n
  | "class_declaration" | "abstract_class_declaration" => Declaration.ofName .classDecl .around n
  | "class" => Declaration.ofName .classDecl .own n
  | "catch_clause" => Declaration.ofPattern .catchParam .own (n.child? "parameter")
  | "for_in_statement" => Declaration.ofLoopHead src n
  | "import_statement" => Declaration.ofImport n
  | "enum_declaration" => Declaration.ofName .enumDecl .around n
  | "internal_module" | "module" => Declaration.ofNamespace n
  | _ => []

end CallRedirect
