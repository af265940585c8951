import CallRedirect.Proofs.Environments
import CallRedirect.Proofs.RegrownCalls
import CallRedirect.Run

/-! # Calls of shadowed objects

A call is redirected if and only if no declaring form of `Node.Declares` declares its object in a scope around it. Two more
forms declare values and are no such form: the alias of an entity, and a namespace with a dotted name.

* `Node.DeclaresValue`: all forms that declare values.
* `Session.redirect_unshadowed`: what redirecting records, and what can still shadow the object of a redirected call.
* `Settings.run_shadowed`: the two forms do. -/

namespace CallRedirect
set_option autoImplicit false

namespace Node

/-- The leftmost identifier of a dotted name. -/
inductive Leftmost : Node → Node → Prop where
  | object {n m : Node} (hm : n.child? "object" = some m) (hkind : m.kind = "identifier") : Leftmost n m
  | deeper {n c m : Node} (hc : n.child? "object" = some c) (hm : Leftmost c m) : Leftmost n m

/-- A namespace with a dotted name. -/
def IsDotted (n name : Node) : Prop :=
  (n.kind = "internal_module" ∨ n.kind = "module") ∧ n.child? "name" = some name ∧ name.kind = "nested_identifier"

/-- A node declares a value with a name, by any form of the grammar. -/
inductive DeclaresValue (src : Bytes) (n : Node) : Node → Reach → Prop where
  | form {d : Declaration} (h : n.Declares src d) : DeclaresValue src n d.name d.reach
  /-- `import m = a.b` -/
  | entity {m : Node} (hkind : n.kind = "import_alias") (hm : (n.namedChildrenOfKind "identifier").head? = some m) :
    DeclaresValue src n m .around
  /-- `namespace m.a { … }` -/
  | dotted {name m : Node} (hname : n.IsDotted name) (hm : name.Leftmost m) : DeclaresValue src n m .around

end Node

/-- A call and its callee open no scope. -/
theorem CallSite.IsCallOf.scopes_objectSite {src : Bytes} {t : Target} {c : CallSite} (h : c.IsCallOf src t) (root : Node) :
    c.objectSite.scopes root = c.call.scopes root := by
  have hcall : c.call.node.opensScope = false := by simp [Node.opensScope, Node.scopeKind?, h.call]
  have hcallee : (c.call.child c.callee).node.opensScope = false := by
    simp [Node.opensScope, Node.scopeKind?, Site.child, h.access]
  rw [objectSite, Site.scopes_child, Site.scopesWithin_eq, hcallee, Site.scopes_child, Site.scopesWithin_eq, hcall]
  simp

namespace Session

/-- The calls of the target whose object is ambient and whose statement still prints as it stands in the file. -/
def redirectedCalls (d : Document) (t : Target) : List CallSite :=
  (ambientCalls d t).filter fun c => (d.statementAt? c.call.top.start).isSome

theorem length_redirectedCalls (d : Document) (t : Target) : (redirectedCalls d t).length = (placed d t).length := by
  rw [redirectedCalls, placed, List.length_filterMap_eq_countP, List.countP_eq_length_filter]
  simp

theorem mem_redirectedCalls_iff {d : Document} {t : Target} (h : ScopeTable.Scoped d.root) {c : CallSite} :
    c ∈ redirectedCalls d t ↔ c.call ∈ d.root.preorder [] ∧ c.IsCallOf d.source t ∧
      (∀ scope ∈ c.call.scopes d.root, ¬ d.root.Declared d.source scope t.object) ∧
      (d.statementAt? c.call.top.start).isSome = true := by
  rw [redirectedCalls, List.mem_filter, ambientCalls, List.mem_filter, CallSite.binding?, Option.isNone_iff_eq_none,
    and_assoc, CallSite.mem_all_iff, and_assoc]
  refine and_congr_right fun hsite => and_congr_right fun hcall => and_congr_left fun _ => ?_
  rw [h.resolve_eq_none_iff _ (CallSite.objectSite_mem (CallSite.mem_all_iff.2 ⟨hsite, hcall⟩)), hcall.scopes_objectSite]

theorem placedOn_eq_redirectedCalls (d : Document) (t : Target) (i : Nat) :
    placedOn d t i = ((redirectedCalls d t).filter fun c => d.statementAt? c.call.top.start == some i).map
      (CallSite.replacement t) := by
  rw [placedOn_eq, redirectedCalls, List.filter_filter]
  congr 2
  funext c
  cases d.statementAt? c.call.top.start <;> simp

/-- Redirecting replaces a call if and only if no form of `Node.Declares` declares its object in a scope around it, and its
statement stands in the file. What else may declare the object there is an alias or a namespace with a dotted name. -/
theorem redirect_unshadowed {t : Target} {s s' : Session} {n : Nat} (hscoped : ScopeTable.Scoped s.document.root)
    (h : s.redirect t = .ok (n, s')) :
    ∃ calls : List CallSite, calls.length = n ∧
      (∀ c, c ∈ calls ↔ c.call ∈ s.document.root.preorder [] ∧ c.IsCallOf s.document.source t ∧
        (∀ scope ∈ c.call.scopes s.document.root, ¬ s.document.root.Declared s.document.source scope t.object) ∧
        (s.document.statementAt? c.call.top.start).isSome = true) ∧
      (s'.document = s.document.mapStatements fun i st =>
        { st with replacements := st.replacements ++
            (calls.filter fun c => s.document.statementAt? c.call.top.start == some i).map (CallSite.replacement t) }) ∧
      ∀ c ∈ calls, ∀ scope ∈ c.call.scopes s.document.root, ∀ site ∈ s.document.root.preorder [], ∀ m reach,
        site.node.DeclaresValue s.document.source m reach → site.Belongs s.document.root reach scope →
        m.text s.document.source = t.object → site.node.kind = "import_alias" ∨ ∃ name, site.node.IsDotted name := by
  obtain ⟨hcount, hdocument⟩ := redirect_eq_ok h
  refine ⟨redirectedCalls s.document t, (length_redirectedCalls _ t).trans hcount.symm,
    fun c => mem_redirectedCalls_iff hscoped, ?_, ?_⟩
  · simpa only [placedOn_eq_redirectedCalls] using hdocument
  · intro c hc scope hscope site hsite m reach hvalue hbelongs htext
    cases hvalue with
    | @form d hd =>
      have hnone := ((mem_redirectedCalls_iff hscoped).1 hc).2.2.1 scope hscope
      exact absurd ⟨site, hsite, d, hd, hbelongs, htext⟩ hnone
    | entity hkind => exact .inl hkind
    | dotted hname => exact .inr ⟨_, hname⟩

/-- The file `function f(console) { console.error(1); }`, then `console.error(2);`. -/
def shadowingFile : SourceText where
  code := "function f(console) \x7b console.error(1); \x7d\nconsole.error(2);\n"
  root :=
    ⟨"program", true, false, 0, 60, none,
      [⟨"function_declaration", true, false, 0, 41, none,
        [⟨"identifier", true, false, 9, 10, some "name", []⟩,
          ⟨"formal_parameters", true, false, 10, 19, some "parameters",
            [⟨"required_parameter", true, false, 11, 18, none, [⟨"identifier", true, false, 11, 18, some "pattern", []⟩]⟩]⟩,
          ⟨"statement_block", true, false, 20, 41, some "body",
            [⟨"expression_statement", true, false, 22, 39, none,
              [consoleCall 22 38 [⟨"number", true, false, 36, 37, none, []⟩]]⟩]⟩]⟩,
        ⟨"expression_statement", true, false, 42, 59, none,
          [consoleCall 42 58 [⟨"number", true, false, 56, 57, none, []⟩]]⟩]⟩

/-- Only the call outside the function is redirected. -/
theorem redirect_unshadowed_parameter :
    ∃ (s s' : Session) (calls : List CallSite), s.document.root = shadowingFile.root ∧
      s.redirect ⟨"console", "error", "logError"⟩ = .ok (1, s') ∧ calls.length = 1 ∧
      ∀ c ∈ calls, c.call ∈ s.document.root.preorder [] ∧
        ∀ scope ∈ c.call.scopes s.document.root, ¬ s.document.root.Declared s.document.source scope "console" := by
  have hrun : ((redirect ⟨"console", "error", "logError"⟩
      ⟨.ofItems (Bytes.ofString shadowingFile.code) shadowingFile.root, {}, []⟩).toOption.map Prod.fst) = some 1 := by
    decide +kernel
  cases hs : redirect ⟨"console", "error", "logError"⟩
      ⟨.ofItems (Bytes.ofString shadowingFile.code) shadowingFile.root, {}, []⟩ with
  | error e =>
    rw [hs] at hrun
    cases hrun
  | ok r =>
    obtain ⟨n, s'⟩ := r
    rw [hs] at hrun
    obtain rfl : n = 1 := Option.some.inj hrun
    obtain ⟨calls, hlength, hcalls, -, -⟩ := redirect_unshadowed (by decide +kernel) hs
    refine ⟨_, s', calls, rfl, hs, hlength, fun c hc => ?_⟩
    obtain ⟨hsite, -, hnone, -⟩ := (hcalls c).1 hc
    exact ⟨hsite, hnone⟩

end Session

namespace Settings

/-- The file `import console = A.B;`, then `console.error(e);`. -/
def aliasingFile : SourceText where
  code := "import console = A.B;\nconsole.error(e);\n"
  root :=
    ⟨"program", true, false, 0, 40, none,
      [⟨"import_alias", true, false, 0, 21, none,
        [⟨"identifier", true, false, 7, 14, none, []⟩,
          ⟨"nested_identifier", true, false, 17, 20, none,
            [⟨"identifier", true, false, 17, 18, some "object", []⟩,
              ⟨"property_identifier", true, false, 19, 20, some "property", []⟩]⟩]⟩,
        ⟨"expression_statement", true, false, 22, 39, none,
          [Session.consoleCall 22 38 [⟨"identifier", true, false, 36, 37, none, []⟩]]⟩]⟩

/-- The file `namespace console.inner { }`, then `console.error(e);`. -/
def dottedFile : SourceText where
  code := "namespace console.inner \x7b \x7d\nconsole.error(e);\n"
  root :=
    ⟨"program", true, false, 0, 46, none,
      [⟨"expression_statement", true, false, 0, 27, none,
        [⟨"internal_module", true, false, 0, 27, none,
          [⟨"nested_identifier", true, false, 10, 23, some "name",
            [⟨"identifier", true, false, 10, 17, some "object", []⟩,
              ⟨"property_identifier", true, false, 18, 23, some "property", []⟩]⟩,
            ⟨"statement_block", true, false, 24, 27, some "body", []⟩]⟩]⟩,
        ⟨"expression_statement", true, false, 28, 45, none,
          [Session.consoleCall 28 44 [⟨"identifier", true, false, 42, 43, none, []⟩]]⟩]⟩

/-- A run redirects the only call in a file, though the program declares its object. -/
def Overlooks (s : Settings) (file : SourceText) : Prop :=
  ScopeTable.Scoped file.root ∧ (s.run file).result.toOption.map Outcome.redirected = some 1 ∧
    ∃ site ∈ file.root.preorder [], ∃ m, site.node.DeclaresValue (Bytes.ofString file.code) m .around ∧
      site.Belongs file.root .around file.root ∧ m.text (Bytes.ofString file.code) = s.object

theorem run_shadowed : Overlooks {} aliasingFile ∧ Overlooks {} dottedFile := by
  have htop {root c : Node} (hc : c ∈ root.children) : (⟨c, [root]⟩ : Site) ∈ root.preorder [] :=
    Node.child_mem_preorder (root.self_mem_preorder []) hc
  constructor
  · refine ⟨by decide +kernel, by decide +kernel, _, htop List.mem_cons_self, _, .entity rfl rfl, rfl, ?_⟩
    decide +kernel
  · refine ⟨by decide +kernel, by decide +kernel, _, Node.child_mem_preorder (htop List.mem_cons_self) List.mem_cons_self, _,
      .dotted ⟨.inl rfl, rfl, rfl⟩ (.object rfl rfl), rfl, ?_⟩
    decide +kernel

end Settings
end CallRedirect
