import CallRedirect.Scope.Declaration
import CallRedirect.Proofs.PatternPlaces
import CallRedirect.Proofs.RegrownNames

/-! # The declaring forms

The forms of syntax that declare values, one constructor each, with the scope that each one names.

* `Node.Binds`: a pattern declares an identifier; `Node.mem_namesOnStack_iff` compares it with the search by a stack.
* `Node.Declares`: a node declares a name; `Node.declares_iff` compares it with `Node.declarations`.
* `Node.Declares.opensScope`: a form whose names belong to its own scope opens one. -/

namespace CallRedirect
set_option autoImplicit false

namespace Node

/-! ## Patterns -/

/-- A pattern declares an identifier. -/
inductive Binds : Node → Node → Prop where
  | name {n : Node} (h : n.isPatternName = true) : Binds n n
  | part {n c m : Node} (hkind : n.kind = "object_pattern" ∨ n.kind = "array_pattern") (hc : c ∈ n.namedChildren)
    (hm : Binds c m) : Binds n m
  | value {n c m : Node} (hkind : n.kind = "pair_pattern") (hc : n.child? "value" = some c) (hm : Binds c m) : Binds n m
  | defaulted {n c m : Node} (hkind : n.kind = "assignment_pattern" ∨ n.kind = "object_assignment_pattern")
    (hc : n.child? "left" = some c) (hm : Binds c m) : Binds n m
  | parameter {n c m : Node} (hkind : n.kind = "required_parameter" ∨ n.kind = "optional_parameter")
    (hc : n.child? "pattern" = some c) (hm : Binds c m) : Binds n m
  | rest {n c m : Node} (hkind : n.kind = "rest_pattern") (hc : c ∈ n.namedChildren) (htype : c.kind ≠ "type_annotation")
    (hm : Binds c m) : Binds n m

theorem Binds.exists_bindsAt {n m : Node} (h : n.Binds m) : ∃ path, n.BindsAt path m := by
  induction h with
  | name h => exact ⟨[], .name (isPatternName_iff.1 h)⟩
  | part hkind hc _ ih =>
    obtain ⟨path, hpath⟩ := ih
    obtain ⟨i, hi, hnamed⟩ := (eachOnce_filter _ _).mem.1 hc
    exact ⟨i :: path, .deeper (.part hkind hi hnamed) hpath⟩
  | value hkind hc _ ih =>
    obtain ⟨path, hpath⟩ := ih
    obtain ⟨i, hi⟩ := (eachOnce_child? _ _).mem.1 (Option.mem_toList.2 hc)
    exact ⟨i :: path, .deeper (.value hkind hi) hpath⟩
  | defaulted hkind hc _ ih =>
    obtain ⟨path, hpath⟩ := ih
    obtain ⟨i, hi⟩ := (eachOnce_child? _ _).mem.1 (Option.mem_toList.2 hc)
    exact ⟨i :: path, .deeper (.defaulted hkind hi) hpath⟩
  | parameter hkind hc _ ih =>
    obtain ⟨path, hpath⟩ := ih
    obtain ⟨i, hi⟩ := (eachOnce_child? _ _).mem.1 (Option.mem_toList.2 hc)
    exact ⟨i :: path, .deeper (.parameter hkind hi) hpath⟩
  | rest hkind hc htype _ ih =>
    obtain ⟨path, hpath⟩ := ih
    obtain ⟨i, hi, hnamed⟩ := (eachOnce_filter _ _).mem.1 hc
    exact ⟨i :: path, .deeper (.rest hkind hi hnamed htype) hpath⟩

theorem BindsAt.binds {n m : Node} {path : List Nat} (h : n.BindsAt path m) : n.Binds m := by
  induction h with
  | name hkind => exact .name (isPatternName_iff.2 hkind)
  | deeper hc _ ih =>
    cases hc with
    | part hkind hc hnamed => exact .part hkind ((eachOnce_filter _ _).mem.2 ⟨_, hc, hnamed⟩) ih
    | value hkind hc => exact .value hkind (Option.mem_toList.1 ((eachOnce_child? _ _).mem.2 ⟨_, hc⟩)) ih
    | defaulted hkind hc => exact .defaulted hkind (Option.mem_toList.1 ((eachOnce_child? _ _).mem.2 ⟨_, hc⟩)) ih
    | parameter hkind hc => exact .parameter hkind (Option.mem_toList.1 ((eachOnce_child? _ _).mem.2 ⟨_, hc⟩)) ih
    | rest hkind hc hnamed htype => exact .rest hkind ((eachOnce_filter _ _).mem.2 ⟨_, hc, hnamed⟩) htype ih

/-- The search with a stack finds what the patterns on it declare. -/
theorem mem_namesOnStack_iff (stack : List Node) (m : Node) : m ∈ namesOnStack stack ↔ ∃ n ∈ stack, n.Binds m := by
  have hbinds (n : Node) : n.Binds m ↔ ∃ path, n.BindsAt path m :=
    ⟨Binds.exists_bindsAt, fun ⟨_, hpath⟩ => hpath.binds⟩
  simp only [namesOnStack_eq_flatMap stack, List.mem_flatMap, (eachOnce_namesOnStack _).mem, hbinds]

/-! ## Forms -/

/-- The declarations with a name of their own, which belongs to the scope around them. -/
def namedDeclarations : List (String × Binding.Kind) :=
  [("function_declaration", .functionDecl), ("generator_function_declaration", .functionDecl),
    ("function_signature", .functionDecl), ("class_declaration", .classDecl), ("abstract_class_declaration", .classDecl),
    ("enum_declaration", .enumDecl)]

/-- The expressions whose name belongs to the scope that they open. -/
def namedExpressions : List (String × Binding.Kind) :=
  [("function", .functionDecl), ("function_expression", .functionDecl), ("generator_function", .functionDecl),
    ("class", .classDecl)]

/-- The functions whose parameters are declared. -/
def parameterized : List String :=
  ["function_declaration", "generator_function_declaration", "function", "function_expression", "generator_function",
    "arrow_function", "method_definition"]

/-- A part of an import clause binds an identifier. -/
inductive ClauseBinds (part m : Node) : Prop where
  | whole (hkind : part.kind = "identifier") (hm : m = part)
  | star (hkind : part.kind = "namespace_import") (hm : m ∈ part.namedChildrenOfKind "identifier")
  | renamed {spec : Node} (hkind : part.kind = "named_imports") (hspec : spec ∈ part.namedChildrenOfKind "import_specifier")
    (hm : spec.child? "alias" = some m) (hname : m.kind = "identifier")
  | named {spec : Node} (hkind : part.kind = "named_imports") (hspec : spec ∈ part.namedChildrenOfKind "import_specifier")
    (halias : spec.child? "alias" = none) (hm : spec.child? "name" = some m) (hname : m.kind = "identifier")

/-- An import statement binds an identifier. -/
inductive Imports (n m : Node) : Prop where
  | required {c : Node} (hc : c ∈ n.namedChildren) (hkind : c.kind = "import_require_clause")
    (hm : m ∈ c.namedChildrenOfKind "identifier")
  | clause {c part : Node} (hc : c ∈ n.namedChildren) (hkind : c.kind = "import_clause") (hpart : part ∈ c.namedChildren)
    (hm : part.ClauseBinds m)

/-- A node declares a name, by itself and not by a node inside it. -/
inductive Declares (src : Bytes) (n : Node) : Declaration → Prop where
  /-- `var`, which belongs to the nearest function. -/
  | var {d pattern m : Node} (hkind : n.kind = "variable_declaration") (hd : d ∈ n.namedChildrenOfKind "variable_declarator")
    (hpattern : d.child? "name" = some pattern) (hm : pattern.Binds m) : Declares src n ⟨m, .varDecl, .function⟩
  /-- `let` and `const`. -/
  | lexical {d pattern m : Node} (hkind : n.kind = "lexical_declaration")
    (hd : d ∈ n.namedChildrenOfKind "variable_declarator") (hpattern : d.child? "name" = some pattern)
    (hm : pattern.Binds m) :
    Declares src n ⟨m, Declaration.lexicalKind (((n.child? "kind").map (text src)).getD ""), .around⟩
  /-- A function, a class or an enum, with or without a body. -/
  | declaration {kind : Binding.Kind} {m : Node} (hform : (n.kind, kind) ∈ namedDeclarations)
    (hm : n.child? "name" = some m) (hname : m.kind = "identifier" ∨ m.kind = "type_identifier") :
    Declares src n ⟨m, kind, .around⟩
  /-- A namespace with a simple name. -/
  | space {m : Node} (hkind : n.kind = "internal_module" ∨ n.kind = "module") (hm : n.child? "name" = some m)
    (hname : m.kind = "identifier") : Declares src n ⟨m, .namespaceDecl, .around⟩
  /-- The name of a function or class expression. -/
  | expression {kind : Binding.Kind} {m : Node} (hform : (n.kind, kind) ∈ namedExpressions) (hm : n.child? "name" = some m)
    (hname : m.kind = "identifier" ∨ m.kind = "type_identifier") : Declares src n ⟨m, kind, .own⟩
  /-- The parameter of a function without parentheses. -/
  | parameter {pattern m : Node} (hform : n.kind ∈ parameterized) (hpattern : n.child? "parameter" = some pattern)
    (hm : pattern.Binds m) : Declares src n ⟨m, .param, .own⟩
  | parameters {params pattern m : Node} (hform : n.kind ∈ parameterized) (hparams : n.child? "parameters" = some params)
    (hpattern : pattern ∈ params.namedChildren) (hm : pattern.Binds m) : Declares src n ⟨m, .param, .own⟩
  | caught {pattern m : Node} (hkind : n.kind = "catch_clause") (hpattern : n.child? "parameter" = some pattern)
    (hm : pattern.Binds m) : Declares src n ⟨m, .catchParam, .own⟩
  /-- `var` in the head of a for-in or for-of loop. -/
  | loopVar {keyword pattern m : Node} (hkind : n.kind = "for_in_statement") (hkeyword : n.child? "kind" = some keyword)
    (htext : keyword.text src = "var") (hpattern : n.child? "left" = some pattern) (hm : pattern.Binds m) :
    Declares src n ⟨m, .varDecl, .function⟩
  /-- `let` or `const` in the head of a for-in or for-of loop. -/
  | loopLexical {keyword pattern m : Node} (hkind : n.kind = "for_in_statement")
    (hkeyword : n.child? "kind" = some keyword) (htext : keyword.text src ≠ "var")
    (hpattern : n.child? "left" = some pattern) (hm : pattern.Binds m) :
    Declares src n ⟨m, Declaration.lexicalKind (keyword.text src), .own⟩
  | imported {m : Node} (hkind : n.kind = "import_statement") (hm : n.Imports m) :
    Declares src n ⟨m, .importDecl, .program⟩

end Node

/-! ## The parts of `Node.declarations` -/

namespace Declaration
variable {n : Node} {d : Declaration} {kind : Binding.Kind} {reach : Reach}

theorem mem_ofPattern {pattern : Option Node} :
    d ∈ ofPattern kind reach pattern ↔ ∃ p m, pattern = some p ∧ p.Binds m ∧ d = ⟨m, kind, reach⟩ := by
  simp only [ofPattern, List.mem_map, Node.patternNames, Node.mem_namesOnStack_iff, Option.mem_toList]
  constructor
  · rintro ⟨m, ⟨p, hp, hm⟩, rfl⟩
    exact ⟨p, m, hp, hm, rfl⟩
  · rintro ⟨p, m, hp, hm, rfl⟩
    exact ⟨m, ⟨p, hp, hm⟩, rfl⟩

theorem mem_ofName : d ∈ ofName kind reach n ↔
    ∃ m, n.child? "name" = some m ∧ (m.kind = "identifier" ∨ m.kind = "type_identifier") ∧ d = ⟨m, kind, reach⟩ := by
  simp only [ofName, List.mem_map, Option.mem_toList, Option.filter_eq_some_iff, Bool.or_eq_true, beq_iff_eq, and_assoc]
  simp only [eq_comm]

theorem mem_ofNamespace : d ∈ ofNamespace n ↔
    ∃ m, n.child? "name" = some m ∧ m.kind = "identifier" ∧ d = ⟨m, .namespaceDecl, .around⟩ := by
  simp only [ofNamespace, List.mem_map, Option.mem_toList, Option.filter_eq_some_iff, beq_iff_eq, and_assoc]
  simp only [eq_comm]

theorem mem_ofDeclarators : d ∈ ofDeclarators kind reach n ↔
    ∃ c ∈ n.namedChildrenOfKind "variable_declarator", ∃ p m, c.child? "name" = some p ∧ p.Binds m ∧
      d = ⟨m, kind, reach⟩ := by
  simp only [ofDeclarators, List.mem_flatMap, mem_ofPattern]

theorem mem_ofParameters : d ∈ ofParameters n ↔
    (∃ p m, n.child? "parameter" = some p ∧ p.Binds m ∧ d = ⟨m, .param, .own⟩) ∨
    ∃ params, n.child? "parameters" = some params ∧ ∃ p ∈ params.namedChildren, ∃ m, p.Binds m ∧ d = ⟨m, .param, .own⟩ := by
  rw [ofParameters, List.mem_append, mem_ofPattern]
  refine or_congr_right ?_
  cases n.child? "parameters" with
  | none => simp
  | some params => simp [mem_ofPattern]

theorem mem_ofLoopHead {src : Bytes} : d ∈ ofLoopHead src n ↔
    ∃ keyword, n.child? "kind" = some keyword ∧ ∃ p m, n.child? "left" = some p ∧ p.Binds m ∧
      d = if keyword.text src = "var" then ⟨m, .varDecl, .function⟩ else ⟨m, lexicalKind (keyword.text src), .own⟩ := by
  rw [ofLoopHead]
  cases n.child? "kind" with
  | none => simp
  | some keyword =>
    by_cases hvar : keyword.text src = "var" <;> simp [hvar, mem_ofPattern]

theorem importedName_eq_some {spec m : Node} : importedName spec = some m ↔
    (spec.child? "alias" = some m ∨ spec.child? "alias" = none ∧ spec.child? "name" = some m) ∧ m.kind = "identifier" := by
  rw [importedName, Option.filter_eq_some_iff, Option.or_eq_some_iff, beq_iff_eq]

theorem mem_importedNames {part m : Node} : m ∈ importedNames part ↔ part.ClauseBinds m := by
  constructor
  · intro hm
    rw [importedNames] at hm
    split at hm
    · next hkind => exact .whole hkind (List.mem_singleton.1 hm)
    · next hkind => exact .star hkind hm
    · next hkind =>
      obtain ⟨spec, hspec, hm⟩ := List.mem_filterMap.1 hm
      obtain ⟨hm | ⟨halias, hm⟩, hname⟩ := importedName_eq_some.1 hm
      · exact .renamed hkind hspec hm hname
      · exact .named hkind hspec halias hm hname
    · cases hm
  · intro hm
    cases hm with
    | whole hkind hm => simp [importedNames, hkind, hm]
    | star hkind hm => simpa [importedNames, hkind] using hm
    | renamed hkind hspec hm hname =>
      simp only [importedNames, hkind]
      exact List.mem_filterMap.2 ⟨_, hspec, importedName_eq_some.2 ⟨.inl hm, hname⟩⟩
    | named hkind hspec halias hm hname =>
      simp only [importedNames, hkind]
      exact List.mem_filterMap.2 ⟨_, hspec, importedName_eq_some.2 ⟨.inr ⟨halias, hm⟩, hname⟩⟩

theorem mem_ofImport : d ∈ ofImport n ↔ ∃ m, n.Imports m ∧ d = ⟨m, .importDecl, .program⟩ := by
  simp only [ofImport, List.mem_map, List.mem_flatMap]
  constructor
  · rintro ⟨m, ⟨c, hc, hm⟩, rfl⟩
    refine ⟨m, ?_, rfl⟩
    rw [importLocals] at hm
    split at hm
    · next hkind => exact .required hc hkind hm
    · next hkind =>
      obtain ⟨part, hpart, hm⟩ := List.mem_flatMap.1 hm
      exact .clause hc hkind hpart (mem_importedNames.1 hm)
    · cases hm
  · rintro ⟨m, hm, rfl⟩
    cases hm with
    | required hc hkind hm => exact ⟨m, ⟨_, hc, by simpa [importLocals, hkind] using hm⟩, rfl⟩
    | clause hc hkind hpart hm =>
      refine ⟨m, ⟨_, hc, ?_⟩, rfl⟩
      simp only [importLocals, hkind]
      exact List.mem_flatMap.2 ⟨_, hpart, mem_importedNames.2 hm⟩

end Declaration

namespace Node
variable {src : Bytes} {n : Node} {d : Declaration}

theorem mem_declarations_of_parameter (hform : n.kind ∈ parameterized) (hd : d ∈ Declaration.ofParameters n) :
    d ∈ n.declarations src := by
  simp only [parameterized, List.mem_cons, List.not_mem_nil, or_false] at hform
  rcases hform with hkind | hkind | hkind | hkind | hkind | hkind | hkind <;> simp [declarations, hkind, hd]

theorem opensScope_of_parameterized (hform : n.kind ∈ parameterized) : n.opensScope = true := by
  simp only [parameterized, List.mem_cons, List.not_mem_nil, or_false] at hform
  rcases hform with hkind | hkind | hkind | hkind | hkind | hkind | hkind <;> simp [opensScope, scopeKind?, hkind]

theorem Declares.mem_declarations (h : n.Declares src d) : d ∈ n.declarations src := by
  cases h with
  | var hkind hd hpattern hm =>
    simp only [declarations, hkind]
    exact Declaration.mem_ofDeclarators.2 ⟨_, hd, _, _, hpattern, hm, rfl⟩
  | lexical hkind hd hpattern hm =>
    simp only [declarations, hkind]
    exact Declaration.mem_ofDeclarators.2 ⟨_, hd, _, _, hpattern, hm, rfl⟩
  | declaration hform hm hname =>
    have hmem (kind : Binding.Kind) : _ ∈ Declaration.ofName kind .around n := Declaration.mem_ofName.2 ⟨_, hm, hname, rfl⟩
    simp only [namedDeclarations, List.mem_cons, List.not_mem_nil, or_false, Prod.mk.injEq] at hform
    rcases hform with ⟨hkind, rfl⟩ | ⟨hkind, rfl⟩ | ⟨hkind, rfl⟩ | ⟨hkind, rfl⟩ | ⟨hkind, rfl⟩ | ⟨hkind, rfl⟩ <;>
      simp [declarations, hkind, hmem]
  | space hkind hm hname =>
    have hmem := Declaration.mem_ofNamespace.2 ⟨_, hm, hname, rfl⟩
    rcases hkind with hkind | hkind <;> simp [declarations, hkind, hmem]
  | expression hform hm hname =>
    have hmem (kind : Binding.Kind) : _ ∈ Declaration.ofName kind .own n := Declaration.mem_ofName.2 ⟨_, hm, hname, rfl⟩
    simp only [namedExpressions, List.mem_cons, List.not_mem_nil, or_false, Prod.mk.injEq] at hform
    rcases hform with ⟨hkind, rfl⟩ | ⟨hkind, rfl⟩ | ⟨hkind, rfl⟩ | ⟨hkind, rfl⟩ <;> simp [declarations, hkind, hmem]
  | parameter hform hpattern hm =>
    exact mem_declarations_of_parameter hform (Declaration.mem_ofParameters.2 (.inl ⟨_, _, hpattern, hm, rfl⟩))
  | parameters hform hparams hpattern hm =>
    exact mem_declarations_of_parameter hform
      (Declaration.mem_ofParameters.2 (.inr ⟨_, hparams, _, hpattern, _, hm, rfl⟩))
  | caught hkind hpattern hm =>
    simp only [declarations, hkind]
    exact Declaration.mem_ofPattern.2 ⟨_, _, hpattern, hm, rfl⟩
  | loopVar hkind hkeyword htext hpattern hm =>
    simp only [declarations, hkind]
    exact Declaration.mem_ofLoopHead.2 ⟨_, hkeyword, _, _, hpattern, hm, by rw [if_pos htext]⟩
  | loopLexical hkind hkeyword htext hpattern hm =>
    simp only [declarations, hkind]
    exact Declaration.mem_ofLoopHead.2 ⟨_, hkeyword, _, _, hpattern, hm, by rw [if_neg htext]⟩
  | imported hkind hm =>
    simp only [declarations, hkind]
    exact Declaration.mem_ofImport.2 ⟨_, hm, rfl⟩

theorem declares_iff : n.Declares src d ↔ d ∈ n.declarations src := by
  refine ⟨Declares.mem_declarations, fun hd => ?_⟩
  have hdeclaration {kind : Binding.Kind} (hform : (n.kind, kind) ∈ namedDeclarations)
      (hd : d ∈ Declaration.ofName kind .around n) : n.Declares src d := by
    obtain ⟨m, hm, hname, rfl⟩ := Declaration.mem_ofName.1 hd
    exact .declaration hform hm hname
  have hexpression {kind : Binding.Kind} (hform : (n.kind, kind) ∈ namedExpressions)
      (hd : d ∈ Declaration.ofName kind .own n) : n.Declares src d := by
    obtain ⟨m, hm, hname, rfl⟩ := Declaration.mem_ofName.1 hd
    exact .expression hform hm hname
  have hparameters (hform : n.kind ∈ parameterized) (hd : d ∈ Declaration.ofParameters n) : n.Declares src d := by
    obtain ⟨p, m, hp, hm, rfl⟩ | ⟨params, hparams, p, hp, m, hm, rfl⟩ := Declaration.mem_ofParameters.1 hd
    · exact .parameter hform hp hm
    · exact .parameters hform hparams hp hm
  have hspace (hkind : n.kind = "internal_module" ∨ n.kind = "module") (hd : d ∈ Declaration.ofNamespace n) :
      n.Declares src d := by
    obtain ⟨m, hm, hname, rfl⟩ := Declaration.mem_ofNamespace.1 hd
    exact .space hkind hm hname
  unfold declarations at hd
  split at hd
  · next hkind =>
    obtain ⟨c, hc, p, m, hp, hm, rfl⟩ := Declaration.mem_ofDeclarators.1 hd
    exact .var hkind hc hp hm
  · next hkind =>
    obtain ⟨c, hc, p, m, hp, hm, rfl⟩ := Declaration.mem_ofDeclarators.1 hd
    exact .lexical hkind hc hp hm
  · next hkind =>
    exact (List.mem_append.1 hd).elim (hdeclaration (by simp [hkind, namedDeclarations]))
      (hparameters (by simp [hkind, parameterized]))
  · next hkind =>
    exact (List.mem_append.1 hd).elim (hdeclaration (by simp [hkind, namedDeclarations]))
      (hparameters (by simp [hkind, parameterized]))
  · next hkind => exact hdeclaration (by simp [hkind, namedDeclarations]) hd
  · next hkind =>
    exact (List.mem_append.1 hd).elim (hexpression (by simp [hkind, namedExpressions]))
      (hparameters (by simp [hkind, parameterized]))
  · next hkind =>
    exact (List.mem_append.1 hd).elim (hexpression (by simp [hkind, namedExpressions]))
      (hparameters (by simp [hkind, parameterized]))
  · next hkind =>
    exact (List.mem_append.1 hd).elim (hexpression (by simp [hkind, namedExpressions]))
      (hparameters (by simp [hkind, parameterized]))
  · next hkind => exact hparameters (by simp [hkind, parameterized]) hd
  · next hkind => exact hparameters (by simp [hkind, parameterized]) hd
  · next hkind => exact hdeclaration (by simp [hkind, namedDeclarations]) hd
  · next hkind => exact hdeclaration (by simp [hkind, namedDeclarations]) hd
  · next hkind => exact hexpression (by simp [hkind, namedExpressions]) hd
  · next hkind =>
    obtain ⟨p, m, hp, hm, rfl⟩ := Declaration.mem_ofPattern.1 hd
    exact .caught hkind hp hm
  · next hkind =>
    obtain ⟨keyword, hkeyword, p, m, hp, hm, rfl⟩ := Declaration.mem_ofLoopHead.1 hd
    by_cases hvar : keyword.text src = "var"
    · rw [if_pos hvar]
      exact .loopVar hkind hkeyword hvar hp hm
    · rw [if_neg hvar]
      exact .loopLexical hkind hkeyword hvar hp hm
  · next hkind =>
    obtain ⟨m, hm, rfl⟩ := Declaration.mem_ofImport.1 hd
    exact .imported hkind hm
  · next hkind => exact hdeclaration (by simp [hkind, namedDeclarations]) hd
  · next hkind => exact hspace (.inl hkind) hd
  · next hkind => exact hspace (.inr hkind) hd
  · cases hd

/-- A form whose names belong to its own scope opens one. -/
theorem Declares.opensScope (h : n.Declares src d) (hreach : d.reach = .own) : n.opensScope = true := by
  cases h with
  | var | lexical | declaration | space | loopVar | imported => cases hreach
  | expression hform =>
    simp only [namedExpressions, List.mem_cons, List.not_mem_nil, or_false, Prod.mk.injEq] at hform
    rcases hform with ⟨hkind, -⟩ | ⟨hkind, -⟩ | ⟨hkind, -⟩ | ⟨hkind, -⟩ <;> simp [Node.opensScope, scopeKind?, hkind]
  | parameter hform => exact opensScope_of_parameterized hform
  | parameters hform => exact opensScope_of_parameterized hform
  | caught hkind => simp [Node.opensScope, scopeKind?, hkind]
  | loopLexical hkind => simp [Node.opensScope, scopeKind?, hkind]

end Node
end CallRedirect
