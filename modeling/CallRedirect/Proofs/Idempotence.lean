import CallRedirect.Proofs.RegrownCalls
import CallRedirect.Proofs.Runs
import CallRedirect.Proofs.Stations

/-! # Running twice

A run on what a run returned finds nothing to do: the calls that were redirected are no calls of the target any more, and
the others are left alone because their object is bound, as it was in the file.

* `Settings.run_run`: the second run. -/

namespace CallRedirect
set_option autoImplicit false

theorem Node.regrown_id {swapped : Node → Bool} (h : ∀ m, swapped m = false) (n : Node) : n.regrown id swapped = n := by
  induction n using induct with
  | step n ih =>
    have hchildren : (n.regrown id swapped).children = n.children := by
      rw [children_regrown_of_false (h n), List.map_congr_left ih, List.map_id']
    obtain ⟨kind, named, missing, start, stop, field, children⟩ := n
    exact congrArg (Node.mk kind named missing start stop field) hchildren

theorem Node.grown_id {swapped : Node → Bool} (h : ∀ m, swapped m = false) {n : Node} {outer : List Node} {s : Site}
    (hs : s ∈ n.preorder outer) : Grown id swapped outer outer n s s := by
  induction n using induct generalizing outer with
  | step n ih =>
    rw [preorder_eq, List.mem_cons, List.mem_flatMap] at hs
    rcases hs with rfl | ⟨c, hc, hbelow⟩
    · have hself : Grown id swapped outer outer n ⟨n, outer⟩ ⟨n.regrown id swapped, outer⟩ := .self outer outer n
      rwa [regrown_id h] at hself
    · refine .part hc (not_isSwappedCallee (h n) c) ?_
      rw [regrown_id h]
      exact ih c hc hbelow

namespace Document

theorem exists_item {d : Document} {code : String} {t : Target} (h : d.root.Grammatical code t) {c : CallSite}
    (hc : c ∈ CallSite.all d.source t d.root) :
    ∃ i ∈ items d.root, i.isComment = false ∧ i.node.kind ≠ "import_statement" ∧ c.call ∈ i.node.preorder [d.root] := by
  obtain ⟨n, hn, hcomment, hsite⟩ := CallSite.exists_child h.wellFormed hc
  have hmem := hn
  rw [← map_node_items] at hmem
  obtain ⟨i, hi, rfl⟩ := List.mem_map.1 hmem
  refine ⟨i, hi, hcomment, fun hkind => ?_, hsite⟩
  exact h.imports i.node hn hkind _ (Node.node_mem_nodes hsite) (CallSite.mem_all_iff.1 hc).2.call

/-- Where nothing is redirected, every call is what it was. -/
theorem becomes_self {d : Document} {code : String} {t : Target} (h : d.root.Grammatical code t)
    (hunswapped : ∀ n, d.redirects t n = false) {c : CallSite} (hc : c ∈ CallSite.all d.source t d.root) :
    d.Becomes t d.root c.call c.call := by
  obtain ⟨n, hn, -, hsite⟩ := CallSite.exists_child h.wellFormed hc
  refine ⟨n, hn, id, ?_, Node.grown_id hunswapped hsite⟩
  rw [Node.regrown_id hunswapped]
  exact hn

/-- Nothing is left to redirect in the text of a document in which calls were redirected. -/
theorem Kept.settled {d : Document} {code : String} {t : Target} {decl : ImportDecl} {imp : Node} {out : Bytes}
    (hkept : d.Kept d.source d.root (d.patches t) decl) (h : d.root.Grammatical code t)
    (hsource : d.source = Bytes.ofString code) (hcallee : t.callee ≠ "") (hfault : d.root.firstFaulty? = none)
    (hsome : Session.ambientCalls d t ≠ []) (hrender : d.renderBytes = .ok out) (himp : imp.IsImportOf decl.print) :
    ∃ root', d.regrown t imp = .ok root' ∧ root'.firstFaulty? = none ∧ Session.ambientCalls (.ofItems out root') t = [] ∧
      (∀ c ∈ Session.ambientCalls d t, d.CallsFunction t out root' c) ∧
      ∀ c ∈ CallSite.all d.source t d.root,
        (ScopeTable.ofTree d.source d.root).resolve c.objectSite t.object ≠ none → d.StaysBound t out root' c := by
  have hne : d.root.children ≠ [] := by
    obtain ⟨c, hc⟩ := List.exists_mem_of_ne_nil _ hsome
    obtain ⟨i, hi, -⟩ := exists_item h (mem_ambientCalls.1 hc).1
    exact List.ne_nil_of_mem (mem_children_of_mem_items hi)
  have hprogram := declared?_program_eq_none h hsome
  obtain ⟨root', hregrown, hregrows, hparts⟩ := hkept.regrows h hsource hfault hne hrender himp
  refine ⟨root', hregrown, hregrows.firstFaulty?_eq_none hfault, hregrows.ambientCalls_eq_nil h hsource hcallee hprogram,
    fun c hc => ?_, fun c hc hbound => ?_⟩
  · obtain ⟨i, hi, hcomment, hkind, hsite⟩ := exists_item h (mem_ambientCalls.1 hc).1
    obtain ⟨start, hcarries, hpart⟩ := hparts i hi hcomment hkind
    exact callsFunction_of_mem h hsource hc (mem_children_of_mem_items hi) hcarries hpart hsite
  · obtain ⟨i, hi, hcomment, hkind, hsite⟩ := exists_item h hc
    obtain ⟨start, hcarries, hpart⟩ := hparts i hi hcomment hkind
    exact hregrows.staysBound h hsource hcallee hprogram (mem_children_of_mem_items hi) hcarries hpart hc hsite hbound

end Document

namespace Settings

/-- A file without ambient calls comes back as it is. -/
theorem run_of_settled {s : Settings} {code : String} {root : Node} (hfault : root.firstFaulty? = none)
    (hnone : Session.ambientCalls (.ofItems (Bytes.ofString code) root) s.target = []) (path : Option String) :
    ∃ o, (s.run ⟨code, root, path⟩).result = .ok o ∧ o.redirected = 0 ∧ o.code = code ∧ o.changed = false := by
  have hplaced : Session.placed (.ofItems (Bytes.ofString code) root) s.target = [] := by
    rw [Session.placed, hnone, List.filterMap_nil]
  obtain ⟨o, ho, hcode, hredirected, hchanged⟩ := @run_eq_unchanged s ⟨code, root, path⟩ hfault hplaced
  exact ⟨o, ho, hredirected, hcode, hchanged⟩

/-- A run on what a run returned finds nothing to redirect and returns it as it is. The tree of that text is the tree of
the file, with the function for the callee of each redirected call and with the import that was written. The calls of a
bound object are calls of a bound object in it. -/
theorem run_run {given : Given} {s : Settings} {file : SourceText} {o : Outcome} (hs : check given = .ok s)
    (hroot : file.root.Grammatical file.code s.target) (hrun : (s.run file).result = .ok o) :
    ∃ (p : Processed) (decl : ImportDecl), s.process (.ofItems (Bytes.ofString file.code) file.root) = .ok p ∧
      (∀ st ∈ p.session.document.statements, st.verbatim = false → st.import? = some decl) ∧
      ∀ imp : Node, imp.IsImportOf decl.print → ∃ root',
        (if p.redirected = 0 then .ok file.root else p.session.document.regrown s.target imp) = .ok root' ∧
        (∀ path, ∃ o', (s.run ⟨o.code, root', path⟩).result = .ok o' ∧ o'.redirected = 0 ∧ o'.code = o.code ∧
          o'.changed = false) ∧
        (∀ c ∈ Session.ambientCalls (.ofItems (Bytes.ofString file.code) file.root) s.target,
          p.session.document.CallsFunction s.target (Bytes.ofString o.code) root' c) ∧
        ∀ c ∈ CallSite.all (Bytes.ofString file.code) s.target file.root,
          (ScopeTable.ofTree (Bytes.ofString file.code) file.root).resolve c.objectSite s.object ≠ none →
            p.session.document.StaysBound s.target (Bytes.ofString o.code) root' c := by
  obtain ⟨p, hfault, hp, hredirected, hcases⟩ := run_cases hrun
  obtain ⟨decl, hkept⟩ := kept_process hroot.wellFormed hroot.proper hp
  refine ⟨p, decl, hp, fun st hst hverbatim => ?_, fun imp himp => ?_⟩
  · rw [Statement.import?, (hkept.statements st hst).written hverbatim]
  · have hcount : p.redirected = (Session.ambientCalls (.ofItems (Bytes.ofString file.code) file.root) s.target).length := by
      rw [redirected_process hp, Session.length_placed hroot.wellFormed]
    have hambient : Session.ambientCalls p.session.document s.target =
        Session.ambientCalls (.ofItems (Bytes.ofString file.code) file.root) s.target := by
      rw [Document.ambientCalls_eq, hkept.source, hkept.tree]
    rcases hcases with ⟨hzero, hcode, -⟩ | ⟨hpos, hrender, -⟩
    · -- nothing was redirected, and the second run is the first one
      have hnone := List.length_eq_zero_iff.1 (hcount.symm.trans hzero)
      have hunswapped (n : Node) : p.session.document.redirects s.target n = false := by
        rw [Document.redirects, hambient, hnone, List.any_nil, Bool.and_false]
      refine ⟨file.root, if_pos hzero, fun path => ?_, by simp [hnone], fun c hc hbound => ?_⟩
      · rw [hcode]
        exact run_of_settled hfault hnone path
      · have hsame : p.session.document.Becomes s.target p.session.document.root c.call c.call :=
          Document.becomes_self (hkept.tree ▸ hroot) hunswapped (by rwa [hkept.source, hkept.tree])
        rw [hkept.tree] at hsame
        rw [hcode]
        exact ⟨c, hc, hsame, hbound⟩
    · have hsome : Session.ambientCalls p.session.document s.target ≠ [] := by
        rw [hambient]
        exact List.ne_nil_of_length_pos (hcount ▸ hpos)
      have hpatches : p.session.document.Kept p.session.document.source p.session.document.root
          (p.session.document.patches s.target) decl := by
        rw [Document.patches, hambient, hkept.source, hkept.tree]
        exact hkept
      obtain ⟨bytes, hbytes, hdecode⟩ := Failure.bind_eq_ok_iff.1 hrender
      obtain rfl := Bytes.eq_ofString_of_decode hdecode
      obtain ⟨root', hregrown, hfault', hnone, hcalls, hbounds⟩ := hpatches.settled (hkept.tree ▸ hroot) hkept.source
        (check_callee hs) (hkept.tree ▸ hfault) hsome hbytes himp
      rw [hambient] at hcalls
      rw [hkept.source, hkept.tree] at hbounds
      exact ⟨root', (if_neg (Nat.pos_iff_ne_zero.1 hpos)).trans hregrown, run_of_settled hfault' hnone, hcalls, hbounds⟩

/-- A file with an import that is merged into, a call of a bound object, and a call in the arguments of another. -/
def shadowingFile : SourceText where
  code := "import \x7b a \x7d from \"src/lib.logger\";\nfunction f(console) \x7b console.error(1); \x7d\n" ++
    "console.error(console.error(2));\n"
  root :=
    ⟨"program", true, false, 0, 111, none,
      [⟨"import_statement", true, false, 0, 35, none,
        [⟨"import_clause", true, false, 7, 12, none,
          [⟨"named_imports", true, false, 7, 12, none,
            [⟨"import_specifier", true, false, 9, 10, none, [⟨"identifier", true, false, 9, 10, some "name", []⟩]⟩]⟩]⟩,
          ⟨"string", true, false, 18, 34, some "source", []⟩]⟩,
        ⟨"function_declaration", true, false, 36, 77, none,
          [⟨"identifier", true, false, 45, 46, some "name", []⟩,
            ⟨"formal_parameters", true, false, 46, 55, some "parameters", [⟨"identifier", true, false, 47, 54, none, []⟩]⟩,
            ⟨"statement_block", true, false, 56, 77, some "body",
              [⟨"expression_statement", true, false, 58, 75, none,
                [Session.consoleCall 58 74 [⟨"number", true, false, 72, 73, none, []⟩]]⟩]⟩]⟩,
        ⟨"expression_statement", true, false, 78, 110, none,
          [Session.consoleCall 78 109 [Session.consoleCall 92 108 [⟨"number", true, false, 106, 107, none, []⟩]]]⟩]⟩

/-- The tree of the import that is written to it. -/
def mergedImport : Node :=
  ⟨"import_statement", true, false, 0, 45, none,
    [⟨"import_clause", true, false, 7, 22, none,
      [⟨"named_imports", true, false, 7, 22, none,
        [⟨"import_specifier", true, false, 9, 10, none, [⟨"identifier", true, false, 9, 10, some "name", []⟩]⟩,
          ⟨"import_specifier", true, false, 12, 20, none, [⟨"identifier", true, false, 12, 20, some "name", []⟩]⟩]⟩]⟩,
      ⟨"string", true, false, 28, 44, some "source", []⟩]⟩

theorem run_run_shadowing :
    ∃ (o : Outcome) (p : Processed) (root' : Node), (run {} shadowingFile).result = .ok o ∧
      o.code = "import \x7b a, logError \x7d from \"src/lib.logger\";\nfunction f(console) \x7b console.error(1); \x7d\n" ++
        "logError(logError(2));\n" ∧
      process {} (.ofItems (Bytes.ofString shadowingFile.code) shadowingFile.root) = .ok p ∧
      p.session.document.regrown (target {}) mergedImport = .ok root' ∧
      (∃ o', (run {} ⟨o.code, root', none⟩).result = .ok o' ∧ o'.redirected = 0 ∧ o'.code = o.code ∧ o'.changed = false) ∧
      (∀ c ∈ Session.ambientCalls (.ofItems (Bytes.ofString shadowingFile.code) shadowingFile.root) (target {}),
        p.session.document.CallsFunction (target {}) (Bytes.ofString o.code) root' c) ∧
      ∃ c ∈ CallSite.all (Bytes.ofString shadowingFile.code) (target {}) shadowingFile.root,
        p.session.document.StaysBound (target {}) (Bytes.ofString o.code) root' c := by
  have hcode : (run {} shadowingFile).result.toOption.map Outcome.code =
      some ("import \x7b a, logError \x7d from \"src/lib.logger\";\nfunction f(console) \x7b console.error(1); \x7d\n" ++
        "logError(logError(2));\n") := by decide +kernel
  have hprocess : (process {} (.ofItems (Bytes.ofString shadowingFile.code) shadowingFile.root)).toOption.map
      (fun p => (p.redirected, p.session.document.statements.head?.map fun st =>
        (st.verbatim, st.import?.map ImportDecl.print))) =
      some (2, some (false, some "import \x7b a, logError \x7d from \"src/lib.logger\";")) := by decide +kernel
  have hbound : ∃ c ∈ CallSite.all (Bytes.ofString shadowingFile.code) (target {}) shadowingFile.root,
      (ScopeTable.ofTree (Bytes.ofString shadowingFile.code) shadowingFile.root).resolve c.objectSite "console" ≠ none := by
    decide +kernel
  cases hrun : (run {} shadowingFile).result with
  | error e =>
    rw [hrun] at hcode
    cases hcode
  | ok o =>
    rw [hrun] at hcode
    obtain ⟨p, decl, hp, hwritten, hsecond⟩ := @run_run Given.empty {} _ _ (by decide +kernel) (by decide +kernel) hrun
    rw [hp] at hprocess
    obtain ⟨hredirected, hhead⟩ := Prod.mk.inj (Option.some.inj hprocess)
    obtain ⟨st, hst, hprinted⟩ := Option.map_eq_some_iff.1 hhead
    obtain ⟨hverbatim, hprinted⟩ := Prod.mk.inj hprinted
    rw [hwritten st (List.mem_of_head? hst) hverbatim] at hprinted
    have himport : mergedImport.IsImportOf decl.print := by
      rw [Option.some.inj hprinted]
      decide +kernel
    obtain ⟨root', hregrown, hagain, hcalls, hbounds⟩ := hsecond mergedImport himport
    rw [if_neg (hredirected ▸ by decide)] at hregrown
    obtain ⟨c, hc, hresolve⟩ := hbound
    exact ⟨o, p, root', rfl, Option.some.inj hcode, hp, hregrown, hagain none, hcalls, c, hc, hbounds c hc hresolve⟩

end Settings
end CallRedirect
