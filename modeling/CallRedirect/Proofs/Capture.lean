import CallRedirect.Proofs.Redirection
import CallRedirect.Proofs.Resolution
import CallRedirect.Proofs.Runs

/-! # Where redirected calls lead

A run looks at what the object of a call means, and never at what the new callee means at the same place. The callee is
meant to reach the import of the function. It does unless some scope around the call declares its name, or the program
declares it first by something else.

* `Declaration.reach_of_import`: imports belong to the program, and nothing else is of their kind.
* `Binding.Leads`: the declaration is an import of the function.
* `Settings.run_leads`: when the callee of a redirected call reaches the import of the function. -/

namespace CallRedirect
set_option autoImplicit false

/-! ## Imports among declarations -/

namespace Declaration

theorem kind_of_mem_ofPattern {kind : Binding.Kind} {reach : Reach} {pattern : Option Node} {d : Declaration}
    (h : d ∈ ofPattern kind reach pattern) : d.kind = kind := by
  obtain ⟨n, -, rfl⟩ := List.mem_map.1 h
  rfl

theorem kind_of_mem_ofName {kind : Binding.Kind} {reach : Reach} {n : Node} {d : Declaration}
    (h : d ∈ ofName kind reach n) : d.kind = kind := by
  obtain ⟨c, -, rfl⟩ := List.mem_map.1 h
  rfl

theorem kind_of_mem_ofDeclarators {kind : Binding.Kind} {reach : Reach} {n : Node} {d : Declaration}
    (h : d ∈ ofDeclarators kind reach n) : d.kind = kind := by
  obtain ⟨c, -, hd⟩ := List.mem_flatMap.1 h
  exact kind_of_mem_ofPattern hd

theorem kind_of_mem_ofParameters {n : Node} {d : Declaration} (h : d ∈ ofParameters n) : d.kind = .param := by
  rw [ofParameters, List.mem_append] at h
  rcases h with h | h
  · exact kind_of_mem_ofPattern h
  · split at h
    · cases h
    · obtain ⟨p, -, hd⟩ := List.mem_flatMap.1 h
      exact kind_of_mem_ofPattern hd

theorem lexicalKind_ne_import (keyword : String) : lexicalKind keyword ≠ .importDecl := by
  rw [lexicalKind]
  split <;> decide

theorem kind_of_mem_ofLoopHead {src : Bytes} {n : Node} {d : Declaration} (h : d ∈ ofLoopHead src n) :
    d.kind ≠ .importDecl := by
  rw [ofLoopHead] at h
  split at h
  · cases h
  · split at h
    · rw [kind_of_mem_ofPattern h]
      decide
    · rw [kind_of_mem_ofPattern h]
      exact lexicalKind_ne_import _

theorem reach_of_import {src : Bytes} {n : Node} {d : Declaration} (h : d ∈ n.declarations src)
    (hkind : d.kind = .importDecl) : d.reach = .program := by
  unfold Node.declarations at h
  split at h
  all_goals grind [kind_of_mem_ofPattern, kind_of_mem_ofName, kind_of_mem_ofDeclarators, kind_of_mem_ofParameters,
    kind_of_mem_ofLoopHead, lexicalKind_ne_import, ofNamespace, ofImport]

end Declaration

namespace Node

/-- Only the program holds imports. -/
theorem key_of_import {src : Bytes} {root : Node} {key : Key} {name : String} {b : Binding}
    (h : root.declared? src key name = some b) (hkind : b.kind = .importDecl) : key = root.key := by
  obtain ⟨s, -, d, hd, rfl, rfl, -⟩ := exists_of_declared? h
  rw [Declaration.reach_of_import hd hkind]
  rfl

end Node

/-! ## Where a name leads -/

/-- The declaration is an entry for values of a declaration that imports from a module, and takes a function out of
it. -/
def Binding.Leads (src : Bytes) (root : Node) (origin function : String) (b : Binding) : Prop :=
  b.kind = .importDecl ∧
    ∃ s ∈ root.namedBelow, s.node.kind = "import_statement" ∧
      (∃ decl, ImportDecl.ofNode? src s.node = some decl ∧ decl.origin = origin ∧ decl.typeOnly = false) ∧
      ∃ clause ∈ s.node.namedChildrenOfKind "import_clause", ∃ part ∈ clause.namedChildrenOfKind "named_imports",
        ∃ entry ∈ part.namedChildrenOfKind "import_specifier", Declaration.importedName entry = some b.node ∧
          (Specifier.ofNode src entry).typeOnly = false ∧ (Specifier.ofNode src entry).imported = some function

/-- The name means nothing at a site, or it leads to the import of a function. -/
def ScopeTable.Leads (src : Bytes) (root : Node) (origin function name : String) (r : Site) : Prop :=
  ∀ b, (ofTree src root).resolve r name = some b → b.Leads src root origin function

theorem ScopeTable.leads_iff {src : Bytes} {root : Node} (h : Scoped root) {r : Site} (hr : r ∈ root.preorder [])
    (origin function name : String) :
    Leads src root origin function name r ↔
      (∀ n ∈ r.ancestors, n.opensScope = true → root.declared? src n.key name = none) ∧
        ∀ b, root.declared? src root.key name = some b → b.Leads src root origin function := by
  have hresolve : (ofTree src root).resolve r name =
      ((r.ancestors.filter Node.opensScope).findSome? fun n => root.declared? src n.key name).or
        (root.declared? src root.key name) := by
    rw [h.resolve_eq src hr, Site.scopes, List.findSome?_append]
    simp
  -- an import that is found in a scope around the site is found in the program
  have hkey : ∀ n ∈ r.ancestors, n.opensScope = true → n.key ≠ root.key := by
    intro n _ hopens heq
    have hprogram := Node.opensScope_congr heq
    rw [hopens, Node.opensScope_program h.program] at hprogram
    cases hprogram
  rw [Leads, hresolve]
  constructor
  · intro hleads
    have hinner : ∀ n ∈ r.ancestors, n.opensScope = true → root.declared? src n.key name = none := by
      have hnone : (r.ancestors.filter Node.opensScope).findSome? (fun n => root.declared? src n.key name) = none := by
        cases hfound : (r.ancestors.filter Node.opensScope).findSome? fun n => root.declared? src n.key name with
        | none => rfl
        | some b =>
          obtain ⟨n, hn, hb⟩ := List.exists_of_findSome?_eq_some hfound
          obtain ⟨hn, hopens⟩ := List.mem_filter.1 hn
          rw [hfound] at hleads
          exact absurd (Node.key_of_import hb (hleads b rfl).1) (hkey n hn hopens)
      intro n hn hopens
      exact List.findSome?_eq_none_iff.1 hnone n (List.mem_filter.2 ⟨hn, hopens⟩)
    refine ⟨hinner, fun b hb => hleads b ?_⟩
    rw [List.findSome?_eq_none_iff.2 fun n hn => hinner n (List.mem_filter.1 hn).1 (List.mem_filter.1 hn).2]
    exact hb
  · rintro ⟨hinner, hprogram⟩ b hb
    rw [List.findSome?_eq_none_iff.2 fun n hn => hinner n (List.mem_filter.1 hn).1 (List.mem_filter.1 hn).2] at hb
    exact hprogram b hb

/-! ## Runs -/

namespace Settings

/-- A run redirects exactly the calls of the target whose object is ambient, whatever its callee means at the call. The
callee of such a call reaches the import of the function exactly if no scope between the call and the program declares
that name, and the program declares it by an import of the function or not at all. -/
theorem run_leads {s : Settings} {file : SourceText} {o : Outcome} (hrun : (s.run file).result = .ok o)
    (hroot : file.root.WellFormed file.code) (hscoped : ScopeTable.Scoped file.root) :
    ∃ calls : List CallSite, o.redirected = calls.length ∧
      (∀ c, c ∈ calls ↔ c.call ∈ file.root.preorder [] ∧ c.IsCallOf (Bytes.ofString file.code) s.target ∧
        (ScopeTable.ofTree (Bytes.ofString file.code) file.root).resolve c.objectSite s.object = none) ∧
      ∀ c ∈ calls,
        (ScopeTable.Leads (Bytes.ofString file.code) file.root s.origin s.function s.callee c.call ↔
          (∀ n ∈ c.call.ancestors, n.opensScope = true →
            file.root.declared? (Bytes.ofString file.code) n.key s.callee = none) ∧
          ∀ b, file.root.declared? (Bytes.ofString file.code) file.root.key s.callee = some b →
            b.Leads (Bytes.ofString file.code) file.root s.origin s.function) := by
  obtain ⟨p, -, hp, hredirected, -⟩ := run_cases hrun
  refine ⟨Session.ambientCalls (.ofItems (Bytes.ofString file.code) file.root) s.target, ?_,
    fun c => Session.mem_ambientCalls_iff, fun c hc => ?_⟩
  · rw [hredirected, redirected_process hp, Session.length_placed hroot]
  · exact ScopeTable.leads_iff hscoped (Session.mem_ambientCalls_iff.1 hc).1 _ _ _

/-- A file that imports the function and calls the ambient object in a function. -/
def importingFile : SourceText where
  code := "import \x7b logError \x7d from \"src/lib.logger\";\nfunction f(e) \x7b console.error(e); \x7d\n"
  root :=
    ⟨"program", true, false, 0, 79, none,
      [⟨"import_statement", true, false, 0, 42, none,
        [⟨"import_clause", true, false, 7, 19, none,
          [⟨"named_imports", true, false, 7, 19, none,
            [⟨"import_specifier", true, false, 9, 17, none, [⟨"identifier", true, false, 9, 17, some "name", []⟩]⟩]⟩]⟩,
          ⟨"string", true, false, 25, 41, some "source", []⟩]⟩,
        ⟨"function_declaration", true, false, 43, 78, none,
          [⟨"identifier", true, false, 52, 53, some "name", []⟩,
            ⟨"formal_parameters", true, false, 53, 56, some "parameters", [⟨"identifier", true, false, 54, 55, none, []⟩]⟩,
            ⟨"statement_block", true, false, 57, 78, some "body",
              [⟨"expression_statement", true, false, 59, 76, none,
                [Session.consoleCall 59 75 [⟨"identifier", true, false, 73, 74, none, []⟩]]⟩]⟩]⟩]⟩

theorem run_leads_importing :
    ∃ (o : Outcome) (calls : List CallSite), (run {} importingFile).result = .ok o ∧ o.redirected = 1 ∧
      calls.length = 1 ∧ ∀ c ∈ calls, c.call ∈ importingFile.root.preorder [] ∧
        ScopeTable.Leads (Bytes.ofString importingFile.code) importingFile.root "src/lib.logger" "logError" "logError"
          c.call := by
  have hcount : (run {} importingFile).result.toOption.map Outcome.redirected = some 1 := by decide +kernel
  cases hrun : (run {} importingFile).result with
  | error e =>
    rw [hrun] at hcount
    cases hcount
  | ok o =>
    rw [hrun] at hcount
    have hcount : o.redirected = 1 := Option.some.inj hcount
    obtain ⟨calls, hlength, hcalls, hleads⟩ := run_leads hrun (by decide +kernel) (by decide +kernel)
    refine ⟨o, calls, rfl, hcount, hlength.symm.trans hcount, fun c hc => ⟨((hcalls c).1 hc).1, ?_⟩⟩
    have hinner : ∀ c ∈ CallSite.all (Bytes.ofString importingFile.code) (target {}) importingFile.root,
        ∀ n ∈ c.call.ancestors, n.opensScope = true →
          (importingFile.root.declared? (Bytes.ofString importingFile.code) n.key "logError").isNone = true := by
      decide +kernel
    refine (hleads c hc).2 ⟨fun n hn hopens => ?_, fun b hb => ?_⟩
    · obtain ⟨hsite, hshape, -⟩ := (hcalls c).1 hc
      exact Option.isNone_iff_eq_none.1 (hinner c (CallSite.mem_all_iff.2 ⟨hsite, hshape⟩) n hn hopens)
    · obtain rfl := Option.some.inj (hb.symm.trans rfl)
      exact ⟨rfl, _, List.mem_cons_self, rfl, ⟨_, rfl, by decide +kernel, by decide +kernel⟩, _, List.mem_cons_self, _,
        List.mem_cons_self, _, List.mem_cons_self, rfl, rfl, by decide +kernel⟩

/-- A file that calls the ambient object where a parameter has the name of the function. -/
def capturingFile : SourceText where
  code := "function f(logError) \x7b console.error(e); \x7d\n"
  root :=
    ⟨"program", true, false, 0, 43, none,
      [⟨"function_declaration", true, false, 0, 42, none,
        [⟨"identifier", true, false, 9, 10, some "name", []⟩,
          ⟨"formal_parameters", true, false, 10, 20, some "parameters",
            [⟨"required_parameter", true, false, 11, 19, none, [⟨"identifier", true, false, 11, 19, some "pattern", []⟩]⟩]⟩,
          ⟨"statement_block", true, false, 21, 42, some "body",
            [⟨"expression_statement", true, false, 23, 40, none,
              [Session.consoleCall 23 39 [⟨"identifier", true, false, 37, 38, none, []⟩]]⟩]⟩]⟩]⟩

/-- The redirected call reaches the parameter. -/
theorem run_captured :
    (run {} capturingFile).result.toOption.map (fun o => (o.code, o.redirected)) =
        some ("import \x7b logError \x7d from \"src/lib.logger\";\nfunction f(logError) \x7b logError(e); \x7d\n", 1) ∧
      ∃ c ∈ Session.ambientCalls (.ofItems (Bytes.ofString capturingFile.code) capturingFile.root) (target {}),
        ¬ ScopeTable.Leads (Bytes.ofString capturingFile.code) capturingFile.root "src/lib.logger" "logError" "logError"
          c.call := by
  refine ⟨by decide +kernel, ?_⟩
  have hparam : ∃ c ∈ Session.ambientCalls (.ofItems (Bytes.ofString capturingFile.code) capturingFile.root) (target {}),
      ((ScopeTable.ofTree (Bytes.ofString capturingFile.code) capturingFile.root).resolve c.call "logError").map
        Binding.kind = some .param := by decide +kernel
  obtain ⟨c, hc, hparam⟩ := hparam
  refine ⟨c, hc, fun hleads => ?_⟩
  obtain ⟨b, hb, hkind⟩ := Option.map_eq_some_iff.1 hparam
  rw [(hleads b hb).1] at hkind
  cases hkind

end Settings
end CallRedirect
