import CallRedirect.Proofs.Merging
import CallRedirect.Proofs.NewImport

/-! # Ensuring an import twice

Ensuring an import once more finds the name and changes nothing, after any of the ways to meet the request but one. If
the only declaration that imports values from the module takes all exports under one name, the request is met by a
second declaration, and then there are two of them: the next request for that module fails.

* `Document.imports_insertImport`: a new declaration is the last of the document, and the others stay as they were.
* `Session.ensure_ensure`: what the second request comes to. -/

namespace CallRedirect
set_option autoImplicit false

namespace Document

/-! ## The declarations after an insertion -/

/-- The declarations among some statements, the first of which has a given index. -/
def importsOf (ss : List Statement) (n : Nat) : List (Nat × ImportDecl) :=
  (ss.zipIdx n).filterMap fun (s, i) => s.import?.map fun decl => (i, decl)

theorem importsOf_append (ss ts : List Statement) (n : Nat) :
    importsOf (ss ++ ts) n = importsOf ss n ++ importsOf ts (n + ss.length) := by
  rw [importsOf, List.zipIdx_append, List.filterMap_append]
  rfl

theorem importsOf_eq_nil {ss : List Statement} (h : ∀ s ∈ ss, s.isPlain = true) (n : Nat) : importsOf ss n = [] := by
  rw [importsOf, List.filterMap_eq_nil_iff]
  rintro ⟨s, i⟩ hs
  have hplain : s.isPlain = true := h s (List.fst_mem_of_mem_zipIdx hs)
  simpa [Statement.isPlain, Statement.isImport] using hplain

theorem importsOf_below (d : Document) (n : Nat) : importsOf (d.statements.rtakeWhile Statement.isPlain) n = [] :=
  importsOf_eq_nil (fun _ hs => List.mem_rtakeWhile_imp hs) n

theorem imports_eq_importsOf (d : Document) : d.imports = importsOf (d.statements.rdropWhile Statement.isPlain) 0 := by
  have happend := importsOf_append (d.statements.rdropWhile Statement.isPlain)
    (d.statements.rtakeWhile Statement.isPlain) 0
  rwa [List.rdropWhile_append_rtakeWhile, importsOf_below, List.append_nil] at happend

theorem lt_of_mem_importsOf {ss : List Statement} {p : Nat × ImportDecl} (h : p ∈ importsOf ss 0) : p.1 < ss.length := by
  obtain ⟨⟨s, i⟩, hs, hp⟩ := List.mem_filterMap.1 h
  obtain ⟨decl, -, rfl⟩ := Option.map_eq_some_iff.1 hp
  exact (List.getElem?_eq_some_iff.1 (List.mk_mem_zipIdx_iff_getElem?.1 hs)).1

/-- The document has one more declaration, the last one, which stands nowhere in the file; the others stay as they
were. -/
structure Gains (decl : ImportDecl) (d d' : Document) (n : Nat) : Prop where
  imports : d'.imports = d.imports ++ [(n, decl)]
  line : d'.lineOf? n = none
  lines : ∀ p ∈ d.imports, d'.lineOf? p.1 = d.lineOf? p.1

theorem gains_insertAfterImports {d d' : Document} {decl : ImportDecl}
    (h : d.insertAfterImports? (Statement.ofImport decl) = some d') :
    Gains decl d d' (d.statements.rdropWhile Statement.isPlain).length := by
  rw [insertAfterImports?_eq] at h
  split at h
  · cases h
  · obtain rfl := Option.some.inj h
    have hsplit : d.statements.rdropWhile Statement.isPlain ++ d.statements.rtakeWhile Statement.isPlain = d.statements :=
      List.rdropWhile_append_rtakeWhile
    have hold := d.imports_eq_importsOf
    refine ⟨?_, ?_, fun p hp => ?_⟩
    · rw [hold]
      refine (importsOf_append _ _ 0).trans (congrArg _ ?_)
      rw [← List.singleton_append, importsOf_append, importsOf_below, Nat.zero_add]
      rfl
    · simp [lineOf?, Statement.ofImport]
    · have hlt : p.1 < (d.statements.rdropWhile Statement.isPlain).length := lt_of_mem_importsOf (hold ▸ hp)
      have hget := @List.getElem?_append_left _ _ (d.statements.rtakeWhile Statement.isPlain) _ hlt
      rw [hsplit] at hget
      rw [lineOf?, lineOf?, List.getElem?_append_left hlt, hget]

/-- A statement that is put in at the top comes before the others, but for the comments. -/
theorem forms_insertAtTop (d : Document) (s : Statement) :
    (d.insertAtTop s).2.statements.map (fun st => (st.form, st.slot)) =
      (s :: d.statements).map fun st => (st.form, st.slot) := by
  unfold insertAtTop
  split
  · rfl
  · split
    · next hnil => simp [insert, hnil]
    · next first rest hcons =>
      split
      · simp [insert]
      · split <;> simp [hcons]

theorem gains_insertAtTop {d : Document} {decl : ImportDecl}
    (h : d.insertAfterImports? (Statement.ofImport decl) = none) :
    Gains decl d (d.insertAtTop (Statement.ofImport decl)).2 0 := by
  have hplain : ∀ s ∈ d.statements, s.isPlain = true := by
    rw [insertAfterImports?_eq] at h
    split at h
    · next hempty => exact List.rdropWhile_eq_nil_iff.1 (List.isEmpty_iff.1 hempty)
    · cases h
  have hnone : d.imports = [] := importsOf_eq_nil hplain 0
  have hforms := forms_insertAtTop d (Statement.ofImport decl)
  refine ⟨?_, ?_, by simp [hnone]⟩
  · have hform : (d.insertAtTop (Statement.ofImport decl)).2.statements.map Statement.form =
        (d.insert 0 (Statement.ofImport decl)).statements.map Statement.form := by
      simpa [Function.comp_def, insert] using congrArg (List.map Prod.fst) hforms
    rw [imports_congr hform, hnone]
    refine (importsOf_append [Statement.ofImport decl] d.statements 0).trans ?_
    rw [importsOf_eq_nil hplain]
    rfl
  · have hslot : (d.insertAtTop (Statement.ofImport decl)).2.statements[0]?.map Statement.slot = some none := by
      have hhead := congrArg (fun l => l[0]?.map Prod.snd) hforms
      simpa [Function.comp_def, Statement.ofImport] using hhead
    obtain ⟨st, hst, hslot⟩ := Option.map_eq_some_iff.1 hslot
    rw [lineOf?, hst, Option.bind_some, hslot, Option.map_none]

end Document

namespace Session
variable {r : Request} {s s' : Session}

theorem gains_insertImport (r : Request) (s : Session) :
    ∃ n, Document.Gains r.declaration s.document (s.insertImport r).document n := by
  rw [document_insertImport, Request.statement_eq]
  cases h : s.document.insertAfterImports? (Statement.ofImport r.declaration) with
  | some d => exact ⟨_, Document.gains_insertAfterImports h⟩
  | none => exact ⟨0, Document.gains_insertAtTop h⟩

/-! ## The second request -/

/-- A document with one declaration that has the name is left as it is. -/
theorem ensure_of_imports {i : Nat} {decl : ImportDecl} (honly : s.document.valueImportsFrom r.origin = [(i, decl)])
    (hstar : decl.isStarForm = false) (himports : decl.imports r.name = true) :
    s.ensure r = .ok (false, s.noteImport "already present" r) := by
  rw [ensure_eq, honly]
  simp [hstar, himports]

theorem valueImportsFrom_insertImport (r : Request) (s : Session) :
    ∃ n, (s.insertImport r).document.valueImportsFrom r.origin =
        s.document.valueImportsFrom r.origin ++ [(n, r.declaration)] ∧
      (s.insertImport r).document.lineOf? n = none ∧
      ∀ p ∈ s.document.valueImportsFrom r.origin,
        (s.insertImport r).document.lineOf? p.1 = s.document.lineOf? p.1 := by
  obtain ⟨n, himports, hline, hlines⟩ := gains_insertImport r s
  refine ⟨n, ?_, hline, fun p hp => hlines p (Document.mem_valueImportsFrom_iff.1 hp).1⟩
  rw [Document.valueImportsFrom, Document.importsFrom, himports, List.filter_append, List.filter_append]
  simp [Document.valueImportsFrom, Document.importsFrom, Request.declaration]

theorem isStarForm_declaration (r : Request) : r.declaration.isStarForm = false := rfl

theorem imports_declaration (r : Request) : r.declaration.imports r.name = true := by
  simp [Request.declaration, ImportDecl.imports, Request.specifier, Specifier.ofName]

/-- What a second request for an import comes to. It fails if the first one put a declaration beside one that takes all
exports, and else it finds the name and leaves the document as it is. -/
theorem ensure_ensure {changed : Bool} (h : s.ensure r = .ok (changed, s')) :
    s'.ensure r =
        (match (s.document.valueImportsFrom r.origin).find? fun p => p.2.isStarForm with
        | none => .ok (false, s'.noteImport "already present" r)
        | some p => .error (.rivalImports r.origin 2 (s.document.lineOf? p.1).toList)) ∧
      (s'.noteImport "already present" r).document = s'.document := by
  refine ⟨?_, rfl⟩
  rw [ensure_eq] at h
  obtain ⟨n, hinserted, hline, hlines⟩ := valueImportsFrom_insertImport r s
  split at h
  · next hnone =>
    obtain ⟨-, rfl⟩ := Prod.mk.inj (Except.ok.inj h)
    rw [hnone] at hinserted ⊢
    exact ensure_of_imports hinserted (isStarForm_declaration r) (imports_declaration r)
  · next i decl honly =>
    split at h
    · next hstar =>
      obtain ⟨-, rfl⟩ := Prod.mk.inj (Except.ok.inj h)
      have hfind : ([(i, decl)].find? fun p => p.2.isStarForm) = some (i, decl) := by simp [hstar]
      have hi : (s.insertImport r).document.lineOf? i = s.document.lineOf? i := hlines (i, decl) (by simp [honly])
      have hrivals : ([(i, decl), (n, r.declaration)].filterMap fun p => (s.insertImport r).document.lineOf? p.1) =
          (s.document.lineOf? i).toList := by
        cases hline' : s.document.lineOf? i <;> simp [hi, hline, hline']
      rw [honly] at hinserted
      rw [ensure_eq, hinserted, honly, hfind]
      exact congrArg (fun lines => Except.error (Failure.rivalImports r.origin 2 lines)) hrivals
    · next hstar =>
      have hfind : ([(i, decl)].find? fun p => p.2.isStarForm) = none := by simp [hstar]
      rw [honly, hfind]
      split at h
      · next himports =>
        obtain ⟨-, rfl⟩ := Prod.mk.inj (Except.ok.inj h)
        exact ensure_of_imports honly (Bool.eq_false_iff.2 hstar) himports
      · obtain ⟨-, rfl⟩ := Prod.mk.inj (Except.ok.inj h)
        exact ensure_of_imports (valueImportsFrom_mergeInto honly)
          (ImportDecl.isStarForm_merge (Bool.eq_false_iff.2 hstar) nofun) (ImportDecl.imports_merge decl r)
  · cases h

theorem ensure_ensure_twiceNamed :
    ∃ s', ensure ⟨"logError", "src/lib.logger", none⟩
        { document := .ofItems (Bytes.ofString twiceNamedFile) twiceNamedTree } = .ok (true, s') ∧
      ∃ s'', s'.ensure ⟨"logError", "src/lib.logger", none⟩ = .ok (false, s'') ∧ s''.document = s'.document := by
  obtain ⟨s', hfirst⟩ : ∃ s', ensure ⟨"logError", "src/lib.logger", none⟩
      { document := .ofItems (Bytes.ofString twiceNamedFile) twiceNamedTree } = .ok (true, s') := ⟨_, rfl⟩
  have hnone : ((Document.ofItems (Bytes.ofString twiceNamedFile) twiceNamedTree).valueImportsFrom
      "src/lib.logger").find? (fun p => p.2.isStarForm) = none := by decide +kernel
  obtain ⟨hsecond, hdocument⟩ := ensure_ensure hfirst
  rw [hnone] at hsecond
  exact ⟨s', hfirst, _, hsecond, hdocument⟩

/-- A file that takes all exports of a module under one name. -/
def starFile : String := "import * as logError from 'src/lib.logger';\n"

/-- The tree of that file. -/
def starTree : Node :=
  ⟨"program", true, false, 0, 44, none,
    [⟨"import_statement", true, false, 0, 43, none,
      [⟨"import_clause", true, false, 7, 20, none,
        [⟨"namespace_import", true, false, 7, 20, none, [⟨"identifier", true, false, 12, 20, none, []⟩]⟩]⟩,
        ⟨"string", true, false, 26, 42, some "source", []⟩]⟩]⟩

/-- The first request succeeds, and the same request fails right after it. -/
theorem ensure_star_rivals :
    ∃ s', ensure ⟨"logError", "src/lib.logger", none⟩ { document := .ofItems (Bytes.ofString starFile) starTree } =
        .ok (true, s') ∧
      s'.ensure ⟨"logError", "src/lib.logger", none⟩ = .error (.rivalImports "src/lib.logger" 2 [1]) :=
  ⟨_, rfl, by rfl⟩

end Session
end CallRedirect
