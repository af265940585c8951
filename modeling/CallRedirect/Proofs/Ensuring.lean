import CallRedirect.Session.Ensure
import Mathlib.Data.List.Basic

/-! # What ensuring an import does

`Session.ensure` looks at the declarations that import values from the module. It fails on several; else it does one of
three things to the document: nothing, one more entry in the declaration, or a new declaration.

* `Document.mem_imports_iff`: the declarations of a document.
* `Session.ensure_eq`: the three outcomes, and the failure.
* `Session.document_insertImport`: where a new declaration goes. -/

namespace CallRedirect
set_option autoImplicit false

namespace Document

theorem mem_imports_iff {d : Document} {p : Nat × ImportDecl} :
    p ∈ d.imports ↔ ∃ st, d.statements[p.1]? = some st ∧ st.import? = some p.2 := by
  rw [imports, List.mem_filterMap]
  constructor
  · rintro ⟨⟨st, i⟩, hst, hp⟩
    obtain ⟨decl, hdecl, rfl⟩ := Option.map_eq_some_iff.1 hp
    exact ⟨st, List.mk_mem_zipIdx_iff_getElem?.1 hst, hdecl⟩
  · rintro ⟨st, hst, hdecl⟩
    exact ⟨(st, p.1), List.mk_mem_zipIdx_iff_getElem?.2 hst, Option.map_eq_some_iff.2 ⟨p.2, hdecl, rfl⟩⟩

/-- The declarations of a document depend on the forms of its statements only. -/
theorem imports_congr {d d' : Document} (h : d.statements.map Statement.form = d'.statements.map Statement.form) :
    d.imports = d'.imports := by
  have hforms (d : Document) :
      d.imports = (d.statements.map Statement.form).zipIdx.filterMap fun (form, i) =>
        (Statement.import? { form := form }).map fun decl => (i, decl) := by
    rw [List.zipIdx_map, List.filterMap_map]
    rfl
  rw [hforms, hforms, h]

theorem mem_valueImportsFrom_iff {d : Document} {origin : String} {p : Nat × ImportDecl} :
    p ∈ d.valueImportsFrom origin ↔ p ∈ d.imports ∧ p.2.origin = origin ∧ p.2.typeOnly = false := by
  rw [valueImportsFrom, importsFrom, List.mem_filter, List.mem_filter, and_assoc]
  simp

end Document

/-- The declaration that meets a request by itself. -/
def Request.declaration (r : Request) : ImportDecl := { origin := r.origin, specifiers := [r.specifier] }

theorem Request.statement_eq (r : Request) : r.statement = Statement.ofImport r.declaration := rfl

namespace Session

/-- What ensuring an import comes to, by the declarations that import values from the module. -/
theorem ensure_eq (r : Request) (s : Session) :
    s.ensure r =
      match s.document.valueImportsFrom r.origin with
      | [] => .ok (true, s.insertImport r)
      | [(i, decl)] =>
        if decl.isStarForm then .ok (true, s.insertImport r)
        else if decl.imports r.name then .ok (false, s.noteImport "already present" r)
        else .ok (true, s.mergeInto r i decl)
      | values =>
        .error (.rivalImports r.origin values.length (values.filterMap fun p => s.document.lineOf? p.1)) := by
  rw [ensure, Document.census]
  cases hvalues : s.document.valueImportsFrom r.origin with
  | nil => rfl
  | cons p rest =>
    cases rest with
    | cons q rest => rfl
    | nil =>
      obtain ⟨i, decl⟩ := p
      have hmem : (i, decl) ∈ s.document.valueImportsFrom r.origin := hvalues ▸ List.mem_singleton_self _
      obtain ⟨st, hst, hdecl⟩ : ∃ st, s.document.statements[i]? = some st ∧ st.import? = some decl :=
        Document.mem_imports_iff.1 (Document.mem_valueImportsFrom_iff.1 hmem).1
      cases hstar : decl.isStarForm with
      | true => simp [hstar, bind, Except.bind, pure, Except.pure]
      | false =>
        cases himports : decl.imports r.name with
        | true => simp [hstar, hst, hdecl, himports, bind, Except.bind, pure, Except.pure]
        | false => simp [hstar, hst, hdecl, himports, bind, Except.bind, pure, Except.pure]

theorem document_insertImport (s : Session) (r : Request) :
    (s.insertImport r).document =
      (s.document.insertAfterImports? r.statement).getD (s.document.insertAtTop r.statement).2 := by
  rw [insertImport]
  cases s.document.insertAfterImports? r.statement with
  | some d => rfl
  | none =>
    dsimp only
    split <;> rfl

end Session
end CallRedirect
