import CallRedirect.Proofs.Acceptance
import CallRedirect.Proofs.Ensuring
import CallRedirect.Proofs.Runs

/-! # Whether redirected calls find their function

After a run that redirected calls, some import should bind the name that the calls use. A new import does, and so does a
declaration with one more entry. A declaration that already imports the function is left alone, whatever name it imports
the function under: then the name of the calls may be bound by nothing.

* `Document.Supplies`: the document imports a function under a name.
* `Session.ensure_supplies`: when it does so after an import was ensured.
* `Settings.run_supplies`: when it does so at the end of a run. -/

namespace CallRedirect
set_option autoImplicit false

/-! ## Entries -/

namespace Specifier

/-- The name that a named entry binds. -/
def bound (s : Specifier) : Option String := s.localName.or s.imported

/-- The entry imports an exported name as a value and binds it to a given one. -/
def Supplies (name callee : String) (s : Specifier) : Prop :=
  s.form = .named ∧ s.typeOnly = false ∧ s.imported = some name ∧ s.bound = some callee

instance (name callee : String) (s : Specifier) : Decidable (s.Supplies name callee) :=
  inferInstanceAs (Decidable (_ ∧ _))

theorem mem_put_self (s : Specifier) (kept : List Specifier) : s ∈ put s kept := by
  induction kept with
  | nil => exact List.mem_singleton_self s
  | cons t kept ih =>
    rw [put]
    split
    · exact List.mem_cons_self
    · exact List.mem_cons_of_mem t ih

theorem mem_dedup_append_singleton (ss : List Specifier) (s : Specifier) : s ∈ dedup (ss ++ [s]) := by
  rw [dedup, List.foldl_append]
  exact mem_put_self s _

end Specifier

/-! ## Declarations and documents -/

/-- The declaration imports an exported name as a value and binds it to a given one. -/
def ImportDecl.Supplies (name callee : String) (d : ImportDecl) : Prop := ∃ s ∈ d.specifiers, s.Supplies name callee

instance (name callee : String) (d : ImportDecl) : Decidable (d.Supplies name callee) :=
  inferInstanceAs (Decidable (∃ s ∈ d.specifiers, _))

namespace Document

/-- Some declaration of the document imports a function of a module as a value and binds it to a given name. -/
def Supplies (origin name callee : String) (d : Document) : Prop :=
  ∃ p ∈ d.imports, p.2.typeOnly = false ∧ p.2.origin = origin ∧ p.2.Supplies name callee

instance (origin name callee : String) (d : Document) : Decidable (d.Supplies origin name callee) :=
  inferInstanceAs (Decidable (∃ p ∈ d.imports, _))

theorem supplies_iff {origin name callee : String} {d : Document} :
    d.Supplies origin name callee ↔ ∃ p ∈ d.valueImportsFrom origin, p.2.Supplies name callee := by
  simp only [Supplies, mem_valueImportsFrom_iff]
  constructor
  · rintro ⟨p, hp, htype, horigin, hsupplies⟩
    exact ⟨p, ⟨hp, horigin, htype⟩, hsupplies⟩
  · rintro ⟨p, ⟨hp, horigin, htype⟩, hsupplies⟩
    exact ⟨p, hp, htype, horigin, hsupplies⟩

theorem supplies_of_mem {origin name callee : String} {d : Document} {st : Statement} {decl : ImportDecl}
    (hst : st ∈ d.statements) (hdecl : st.import? = some decl) (htype : decl.typeOnly = false)
    (horigin : decl.origin = origin) (hsupplies : decl.Supplies name callee) : d.Supplies origin name callee := by
  obtain ⟨i, hi⟩ := List.mem_iff_getElem?.1 hst
  exact ⟨(i, decl), mem_imports_iff.2 ⟨st, hi, hdecl⟩, htype, horigin, hsupplies⟩

/-- A statement that is put in stands in the document, up to the comments it takes over. -/
theorem exists_insertAtTop (d : Document) (s : Statement) :
    ∃ st ∈ (d.insertAtTop s).2.statements, st.form = s.form := by
  have hinsert : ∃ st ∈ (d.insert 0 s).statements, st.form = s.form := ⟨s, by simp [insert], rfl⟩
  unfold insertAtTop
  split
  · exact hinsert
  · split
    · exact hinsert
    · split
      · exact hinsert
      · split
        · exact ⟨_, List.mem_cons_self, rfl⟩
        · exact ⟨_, List.mem_cons_self, rfl⟩

theorem exists_insertAfterImports {d d' : Document} {s : Statement} (h : d.insertAfterImports? s = some d') :
    ∃ st ∈ d'.statements, st.form = s.form := by
  obtain ⟨p, -, rfl⟩ := Option.map_eq_some_iff.1 h
  exact ⟨s, by simp [insert], rfl⟩

end Document

/-! ## Ensuring an import -/

theorem Request.supplies_specifier {r : Request} {callee : String} (h : r.specifier.bound = some callee) :
    r.specifier.Supplies r.name callee :=
  ⟨rfl, rfl, rfl, h⟩

namespace Session

theorem supplies_insertImport {r : Request} {callee : String} (h : r.specifier.bound = some callee) (s : Session) :
    (s.insertImport r).document.Supplies r.origin r.name callee := by
  have hform : ∃ st ∈ (s.insertImport r).document.statements, st.form = r.statement.form := by
    rw [document_insertImport]
    cases hafter : s.document.insertAfterImports? r.statement with
    | some d => exact Document.exists_insertAfterImports hafter
    | none => exact Document.exists_insertAtTop s.document r.statement
  obtain ⟨st, hst, hform⟩ := hform
  have hdecl : st.import? = some { origin := r.origin, specifiers := [r.specifier] } := by
    rw [Statement.import?, hform]
    rfl
  exact Document.supplies_of_mem hst hdecl rfl rfl
    ⟨r.specifier, List.mem_singleton_self _, Request.supplies_specifier h⟩

theorem supplies_mergeInto {r : Request} {callee : String} (h : r.specifier.bound = some callee) {s : Session} {i : Nat}
    {decl : ImportDecl} (hmem : (i, decl) ∈ s.document.valueImportsFrom r.origin) :
    (s.mergeInto r i decl).document.Supplies r.origin r.name callee := by
  obtain ⟨himport, horigin, htype⟩ := Document.mem_valueImportsFrom_iff.1 hmem
  obtain ⟨st, hst, -⟩ := Document.mem_imports_iff.1 himport
  refine ⟨(i, decl.merge r.specifier), Document.mem_imports_iff.2 ⟨st.merge decl r.specifier, ?_, rfl⟩, htype, horigin,
    r.specifier, Specifier.mem_dedup_append_singleton _ _, Request.supplies_specifier h⟩
  show (s.document.statements.modify i fun st => st.merge decl r.specifier)[i]? = _
  rw [List.getElem?_modify_eq, hst]
  rfl

/-- After an import was ensured, the document supplies the requested name unless a declaration had it already, and had
it under other names only. -/
theorem ensure_supplies {r : Request} {callee : String} {s s' : Session} {changed : Bool}
    (hbound : r.specifier.bound = some callee) (h : s.ensure r = .ok (changed, s')) :
    s'.document.Supplies r.origin r.name callee ↔
      ∀ p ∈ s.document.valueImportsFrom r.origin,
        p.2.isStarForm = false → p.2.imports r.name = true → p.2.Supplies r.name callee := by
  rw [ensure_eq] at h
  split at h
  · next hvalues =>
    obtain ⟨-, rfl⟩ := Prod.mk.inj (Except.ok.inj h)
    simp [hvalues, supplies_insertImport hbound s]
  · next i decl hvalues =>
    have hmem : (i, decl) ∈ s.document.valueImportsFrom r.origin := hvalues ▸ List.mem_singleton_self _
    rw [hvalues, List.forall_mem_singleton]
    split at h
    · next hstar =>
      obtain ⟨-, rfl⟩ := Prod.mk.inj (Except.ok.inj h)
      simp [hstar, supplies_insertImport hbound s]
    · next hstar =>
      split at h
      · next himports =>
        -- the document stays as it is, and its only declaration decides
        obtain ⟨-, rfl⟩ := Prod.mk.inj (Except.ok.inj h)
        show s.document.Supplies r.origin r.name callee ↔ _
        rw [Document.supplies_iff, hvalues]
        simp [himports, hstar]
      · next himports =>
        obtain ⟨-, rfl⟩ := Prod.mk.inj (Except.ok.inj h)
        simp [himports, supplies_mergeInto hbound hmem]
  · cases h

end Session

/-! ## Runs -/

namespace Settings

theorem bound_specifier {s : Settings} (h : s.localName ≠ some "") : s.request.specifier.bound = some s.callee := by
  unfold request Request.specifier Specifier.ofName Specifier.bound callee
  cases hl : s.localName with
  | none => rfl
  | some l =>
    have hne : l ≠ "" := fun heq => h (by rw [hl, heq])
    by_cases hf : l = s.function
    · simp [hf]
    · simp [hf, hne]

/-- Where calls were redirected, an import was ensured. -/
theorem process_eq_ok {s : Settings} {d : Document} {p : Processed} (h : s.process d = .ok p) (hp : 0 < p.redirected) :
    ∃ (n : Nat) (done ready final : Session) (changed : Bool), (s.opened d).redirect s.target = .ok (n, done) ∧
      ready.document = done.document ∧ ready.ensure s.request = .ok (changed, final) ∧
      p.session.document = final.document := by
  obtain ⟨n, done, hredirect, ⟨-, rfl⟩ | ⟨-, changed, final, hensure, rfl⟩⟩ := process_cases h
  · exact absurd hp (Nat.lt_irrefl 0)
  · exact ⟨n, done, done.finishPhase.startPhase "Ensure Import" s.origin, final, changed, hredirect, rfl, hensure, rfl⟩

theorem run_eq_ok {s : Settings} {file : SourceText} {o : Outcome} (h : (s.run file).result = .ok o)
    (hactionable : o.actionable = true) :
    ∃ (d : Document) (p : Processed), Document.ofTree s.dialect (Bytes.ofString file.code) file.root = .ok d ∧
      s.process d = .ok p ∧ p.session.document.render = .ok o.code ∧ 0 < p.redirected := by
  obtain ⟨p, hfault, hp, hredirected, hcases⟩ := run_cases h
  have hpos : 0 < p.redirected := hredirected ▸ of_decide_eq_true hactionable
  rcases hcases with ⟨hzero, -⟩ | ⟨-, hrender, -⟩
  · omega
  · exact ⟨_, p, Document.ofTree_eq_ok hfault, hp, hrender, hpos⟩

/-- After a run that redirected calls, the name they use is supplied unless the file had a declaration that imports the
function already, and under other names only. -/
theorem run_supplies {given : Given} {s : Settings} {file : SourceText} {o : Outcome} (hs : check given = .ok s)
    (hrun : (s.run file).result = .ok o) (hactionable : o.actionable = true) :
    ∃ (d : Document) (p : Processed),
      Document.ofTree s.dialect (Bytes.ofString file.code) file.root = .ok d ∧ s.process d = .ok p ∧
      p.session.document.render = .ok o.code ∧
      (p.session.document.Supplies s.origin s.function s.callee ↔
        ∀ q ∈ d.imports, q.2.typeOnly = false → q.2.origin = s.origin → q.2.isStarForm = false →
          q.2.imports s.function = true → q.2.Supplies s.function s.callee) := by
  obtain ⟨d, p, hd, hp, hrender, hredirected⟩ := run_eq_ok hrun hactionable
  obtain ⟨n, done, ready, final, changed, hredirect, hready, hensure, hfinal⟩ := process_eq_ok hp hredirected
  refine ⟨d, p, hd, hp, hrender, ?_⟩
  have himports : ready.document.imports = d.imports := by
    rw [hready]
    exact Document.imports_congr (Session.forms_redirect hredirect)
  have hsupplies : final.document.Supplies s.origin s.function s.callee ↔
      ∀ q ∈ ready.document.valueImportsFrom s.origin,
        q.2.isStarForm = false → q.2.imports s.function = true → q.2.Supplies s.function s.callee :=
    Session.ensure_supplies (bound_specifier (check_localName hs)) hensure
  rw [hfinal, hsupplies]
  simp only [Document.mem_valueImportsFrom_iff, himports, and_imp]
  constructor
  · intro h q hq htype horigin
    exact h q hq horigin htype
  · intro h q hq horigin htype
    exact h q hq htype horigin

/-- A file that imports the function under another name, and calls the ambient object. -/
def aliasedFile : SourceText where
  code := "import \x7b logError as le \x7d from 'src/lib.logger';\nconsole.error(e);\n"
  root :=
    ⟨"program", true, false, 0, 67, none,
      [⟨"import_statement", true, false, 0, 48, none,
        [⟨"import_clause", true, false, 7, 25, none,
          [⟨"named_imports", true, false, 7, 25, none,
            [⟨"import_specifier", true, false, 9, 23, none,
              [⟨"identifier", true, false, 9, 17, some "name", []⟩,
                ⟨"identifier", true, false, 21, 23, some "alias", []⟩]⟩]⟩]⟩,
          ⟨"string", true, false, 31, 47, some "source", []⟩]⟩,
        ⟨"expression_statement", true, false, 49, 66, none,
          [⟨"call_expression", true, false, 49, 65, none,
            [⟨"member_expression", true, false, 49, 62, some "function",
              [⟨"identifier", true, false, 49, 56, some "object", []⟩,
                ⟨"property_identifier", true, false, 57, 62, some "property", []⟩]⟩,
              ⟨"arguments", true, false, 62, 65, some "arguments",
                [⟨"identifier", true, false, 63, 64, none, []⟩]⟩]⟩]⟩]⟩

theorem run_supplies_aliased :
    ∃ d p, Document.ofTree .jsx (Bytes.ofString aliasedFile.code) aliasedFile.root = .ok d ∧
      process { dialect := .jsx, localName := some "le" } d = .ok p ∧
      p.session.document.render = .ok "import \x7b logError as le \x7d from 'src/lib.logger';\nle(e);\n" ∧
      p.session.document.Supplies "src/lib.logger" "logError" "le" := by
  have hcode : ((run { dialect := .jsx, localName := some "le" } aliasedFile).result.toOption.map fun o =>
      (o.code, o.actionable)) = some ("import \x7b logError as le \x7d from 'src/lib.logger';\nle(e);\n", true) := by
    decide +kernel
  cases hrun : (run { dialect := .jsx, localName := some "le" } aliasedFile).result with
  | error e =>
    rw [hrun] at hcode
    cases hcode
  | ok o =>
    rw [hrun] at hcode
    obtain ⟨hcode, hactionable⟩ := Prod.mk.inj (Option.some.inj hcode)
    have hchecked : check ((Given.empty.set .dialect (.text "jsx")).set .localName (.text "le")) =
      .ok { dialect := .jsx, localName := some "le" } := by decide +kernel
    obtain ⟨d, p, hd, hp, hrender, hsupplies⟩ := run_supplies hchecked hrun hactionable
    obtain rfl : d = .ofItems (Bytes.ofString aliasedFile.code) aliasedFile.root :=
      Except.ok.inj (hd.symm.trans (Document.ofTree_eq_ok (by decide +kernel)))
    exact ⟨_, p, hd, hp, hcode ▸ hrender, hsupplies.2 (by decide +kernel)⟩

/-- Calls that go to another name are not supplied, though the run succeeds. -/
theorem run_aliased_unsupplied :
    ∃ d p, (run { dialect := .jsx } aliasedFile).result.toOption.map Outcome.actionable = some true ∧
      Document.ofTree .jsx (Bytes.ofString aliasedFile.code) aliasedFile.root = .ok d ∧
      process { dialect := .jsx } d = .ok p ∧
      p.session.document.render = .ok "import \x7b logError as le \x7d from 'src/lib.logger';\nlogError(e);\n" ∧
      ¬ p.session.document.Supplies "src/lib.logger" "logError" "logError" := by
  have hactionable : (run { dialect := .jsx } aliasedFile).result.toOption.map Outcome.actionable = some true := by
    decide +kernel
  have hfinal :
      ((process { dialect := .jsx } (.ofItems (Bytes.ofString aliasedFile.code) aliasedFile.root)).toOption.map fun p =>
        (p.session.document.render.toOption,
          decide (p.session.document.Supplies "src/lib.logger" "logError" "logError"))) =
      some (some "import \x7b logError as le \x7d from 'src/lib.logger';\nlogError(e);\n", false) := by
    decide +kernel
  cases hp : process { dialect := .jsx } (.ofItems (Bytes.ofString aliasedFile.code) aliasedFile.root) with
  | error e =>
    rw [hp] at hfinal
    cases hfinal
  | ok p =>
    rw [hp] at hfinal
    obtain ⟨hrender, hsupplies⟩ := Prod.mk.inj (Option.some.inj hfinal)
    refine ⟨_, p, hactionable, Document.ofTree_eq_ok (by decide +kernel), hp, ?_, of_decide_eq_false hsupplies⟩
    cases h : p.session.document.render with
    | error e =>
      rw [h] at hrender
      cases hrender
    | ok code =>
      rw [h] at hrender
      rw [Option.some.inj hrender]

end Settings
end CallRedirect
