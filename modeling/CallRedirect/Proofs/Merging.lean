import CallRedirect.Proofs.Supply
import Mathlib.Data.List.Forall2

/-! # Which entries a merge keeps

A declaration that takes one more entry is written anew, with one entry for each export: of several entries for one export
the last is kept, and the others are lost with the names they bind.

* `Specifier.Writes`: what a node of an import clause writes; `ImportDecl.specifiers_eq` says that it is read so.
* `Specifier.SameExport`: two entries take the same thing out of the module; `key_eq_iff` compares it with the keys.
* `Specifier.mem_dedup_iff`: the entries that are kept.
* `Document.valueImportsFrom_modify`: the declarations of a document after a merge.
* `Session.ensure_merges`: ensuring an import keeps exactly the entries without a later one for the same export. -/

namespace CallRedirect
set_option autoImplicit false

/-! ## Entries as they are written -/

namespace Specifier

/-- What a node of an import clause writes. An entry that is marked with `typeof` writes no specifier: there is none that
tells it from an entry marked with `type`. -/
inductive Writes (src : Bytes) : Node → Specifier → Prop
  | default {n : Node} (hkind : n.kind = "identifier") : Writes src n ⟨.default, none, some (n.text src), false⟩
  | star {n : Node} (hkind : n.kind = "namespace_import") :
    Writes src n ⟨.star, none, (n.namedChildrenOfKind "identifier").head?.map (Node.text src), false⟩
  | value {n name : Node} (hkind : n.kind = "import_specifier") (hname : n.child? "name" = some name)
      (htype : n.hasToken "type" = false) (htypeof : n.hasToken "typeof" = false) :
    Writes src n ⟨.named, some (name.text src), (n.child? "alias").map (Node.text src), false⟩
  | type {n name : Node} (hkind : n.kind = "import_specifier") (hname : n.child? "name" = some name)
      (htype : n.hasToken "type" = true) (htypeof : n.hasToken "typeof" = false) :
    Writes src n ⟨.named, some (name.text src), (n.child? "alias").map (Node.text src), true⟩

/-- The nodes of a part of an import clause that write an entry each. -/
def entriesOf (part : Node) : List Node :=
  if part.kind = "identifier" ∨ part.kind = "namespace_import" then [part]
  else if part.kind = "named_imports" then part.namedChildrenOfKind "import_specifier"
  else []

/-- The entry that is read off a node. -/
def ofEntry (src : Bytes) (n : Node) : Specifier :=
  if n.kind = "identifier" then ⟨.default, none, some (n.text src), false⟩
  else if n.kind = "namespace_import" then
    ⟨.star, none, (n.namedChildrenOfKind "identifier").head?.map (Node.text src), false⟩
  else ofNode src n

theorem ofEntry_specifier {src : Bytes} {n : Node} (h : n.kind = "import_specifier") : ofEntry src n = ofNode src n := by
  simp [ofEntry, h]

theorem Writes.ofEntry_eq {src : Bytes} {n : Node} {e : Specifier} (h : Writes src n e) : ofEntry src n = e := by
  cases h with
  | default hkind => simp [ofEntry, hkind]
  | star hkind => simp [ofEntry, hkind]
  | value hkind hname htype htypeof => simp [ofEntry_specifier hkind, ofNode, hname, marksTypes, htype, htypeof]
  | type hkind hname htype htypeof => simp [ofEntry_specifier hkind, ofNode, hname, marksTypes, htype]

theorem ofClausePart_eq (src : Bytes) (part : Node) : ofClausePart src part = (entriesOf part).map (ofEntry src) := by
  unfold ofClausePart
  split
  · next hkind => simp [entriesOf, ofEntry, hkind]
  · next hkind => simp [entriesOf, ofEntry, hkind]
  · next hkind =>
    have hentries : entriesOf part = part.namedChildrenOfKind "import_specifier" := by simp [entriesOf, hkind]
    rw [hentries]
    refine List.map_congr_left fun n hn => (ofEntry_specifier ?_).symm
    exact eq_of_beq (List.mem_filter.1 hn).2
  · next hidentifier hstar hnamed => rw [entriesOf, if_neg (not_or.2 ⟨hidentifier, hstar⟩), if_neg hnamed, List.map_nil]

end Specifier

namespace ImportDecl

/-- The nodes of an import statement that write its entries. -/
def entryNodes (n : Node) : List Node :=
  match (n.namedChildrenOfKind "import_clause").getLast? with
  | none => []
  | some clause => clause.namedChildren.flatMap Specifier.entriesOf

/-- A declaration is read as it is written. -/
theorem specifiers_eq {src : Bytes} {n : Node} {decl : ImportDecl} {written : List Specifier}
    (hdecl : ofNode? src n = some decl) (hwritten : List.Forall₂ (Specifier.Writes src) (entryNodes n) written) :
    decl.specifiers = written := by
  have hread : specifiersOf src n = (entryNodes n).map (Specifier.ofEntry src) := by
    rw [specifiersOf, entryNodes]
    cases (n.namedChildrenOfKind "import_clause").getLast? with
    | none => rfl
    | some clause =>
      rw [List.map_flatMap]
      exact congrArg (List.flatMap · clause.namedChildren) (funext (Specifier.ofClausePart_eq src))
  have hspecifiers : decl.specifiers = specifiersOf src n := by
    unfold ofNode? at hdecl
    split at hdecl
    · cases hdecl
    · obtain ⟨origin, -, rfl⟩ := Option.map_eq_some_iff.1 hdecl
      rfl
  rw [hspecifiers, hread, ← List.forall₂_eq_eq_eq, List.forall₂_map_left_iff]
  exact hwritten.imp fun _ _ h => h.ofEntry_eq

end ImportDecl

/-! ## Entries for one export -/

namespace Specifier

/-- The two entries take the same thing out of the module: one export, or both the default. -/
def SameExport (s t : Specifier) : Prop := s.form = t.form ∧ s.imported = t.imported

instance (s t : Specifier) : Decidable (s.SameExport t) := inferInstanceAs (Decidable (_ ∧ _))

/-- There is not both a default entry and an entry for an export that is spelled like its key. -/
def Apart (ss : List Specifier) : Prop :=
  (∃ s ∈ ss, s.form = .default) → ∀ t ∈ ss, t.form = .named → t.imported ≠ some "__default__"

instance (ss : List Specifier) : Decidable (Apart ss) := inferInstanceAs (Decidable (_ → _))

/-- An entry that may stand beside named ones. -/
inductive Joins : Specifier → Prop
  | named (name : String) (localName : Option String) (typeOnly : Bool) : Joins ⟨.named, some name, localName, typeOnly⟩
  | default (localName : Option String) (typeOnly : Bool) : Joins ⟨.default, none, localName, typeOnly⟩

theorem Writes.joins {src : Bytes} {n : Node} {e : Specifier} (h : Writes src n e) (hstar : e.form ≠ .star) : e.Joins := by
  cases h with
  | default hkind => exact .default _ _
  | star hkind => exact absurd rfl hstar
  | value hkind hname htype htypeof => exact .named _ _ _
  | type hkind hname htype htypeof => exact .named _ _ _

theorem joins_of_writes {src : Bytes} {nodes : List Node} {written : List Specifier}
    (h : List.Forall₂ (Writes src) nodes written) {e : Specifier} (he : e ∈ written) (hstar : e.form ≠ .star) : e.Joins := by
  induction h with
  | nil => cases he
  | cons hfirst _ ih =>
    rcases List.mem_cons.1 he with rfl | he
    · exact hfirst.joins hstar
    · exact ih he

theorem key_eq_iff {ss : List Specifier} (hjoins : ∀ e ∈ ss, e.Joins) (hapart : Apart ss) {s t : Specifier} (hs : s ∈ ss)
    (ht : t ∈ ss) : s.key = t.key ↔ s.SameExport t := by
  cases hjoins s hs with
  | named name localName typeOnly =>
    cases hjoins t ht with
    | named => simp [key, SameExport]
    | default =>
      have hname := hapart ⟨_, ht, rfl⟩ _ hs rfl
      simpa [key, SameExport] using hname
  | default localName typeOnly =>
    cases hjoins t ht with
    | named =>
      have hname := hapart ⟨_, hs, rfl⟩ _ ht rfl
      simpa [key, SameExport, eq_comm] using hname
    | default => exact iff_of_true rfl ⟨rfl, rfl⟩

/-! ## One entry for each key -/

theorem eq_or_mem_of_mem_put {s t : Specifier} {kept : List Specifier} (h : t ∈ put s kept) : t = s ∨ t ∈ kept := by
  induction kept with
  | nil => exact .inl (List.mem_singleton.1 h)
  | cons u kept ih =>
    rw [put] at h
    split at h
    · rcases List.mem_cons.1 h with rfl | h
      · exact .inl rfl
      · exact .inr (List.mem_cons_of_mem u h)
    · rcases List.mem_cons.1 h with rfl | h
      · exact .inr List.mem_cons_self
      · exact (ih h).imp_right (List.mem_cons_of_mem u)

/-- No two entries of the list have one key. -/
def Distinct (kept : List Specifier) : Prop := kept.Pairwise fun s t => s.key ≠ t.key

theorem Distinct.put {kept : List Specifier} (h : Distinct kept) (s : Specifier) : Distinct (put s kept) := by
  induction kept with
  | nil => exact List.pairwise_singleton _ s
  | cons t kept ih =>
    obtain ⟨hhead, htail⟩ := List.pairwise_cons.1 h
    rw [Specifier.put]
    split
    · next hkey => exact List.pairwise_cons.2 ⟨fun u hu => hkey ▸ hhead u hu, htail⟩
    · next hkey =>
      refine List.pairwise_cons.2 ⟨fun u hu => ?_, ih htail⟩
      rcases eq_or_mem_of_mem_put hu with rfl | hu
      · exact hkey
      · exact hhead u hu

/-- An entry that is put in displaces those of its key, and no other. -/
theorem mem_put_iff {kept : List Specifier} (h : Distinct kept) {s t : Specifier} :
    t ∈ put s kept ↔ t = s ∨ t ∈ kept ∧ t.key ≠ s.key := by
  induction kept with
  | nil => simp [put]
  | cons u kept ih =>
    obtain ⟨hhead, htail⟩ := List.pairwise_cons.1 h
    rw [put]
    split
    · next hkey =>
      -- the entry that gives way is the only one of its key
      have hothers : ∀ t ∈ kept, t.key ≠ s.key := fun t ht hts => hhead t ht (hkey.trans hts.symm)
      constructor
      · intro ht
        exact (List.mem_cons.1 ht).imp_right fun ht => ⟨List.mem_cons_of_mem u ht, hothers t ht⟩
      · rintro (rfl | ⟨ht, hts⟩)
        · exact List.mem_cons_self
        · rcases List.mem_cons.1 ht with rfl | ht
          · exact absurd hkey hts
          · exact List.mem_cons_of_mem s ht
    · next hkey =>
      rw [List.mem_cons, ih htail, List.mem_cons]
      constructor
      · rintro (rfl | rfl | ⟨ht, hts⟩)
        · exact .inr ⟨.inl rfl, hkey⟩
        · exact .inl rfl
        · exact .inr ⟨.inr ht, hts⟩
      · rintro (rfl | ⟨rfl | ht, hts⟩)
        · exact .inr (.inl rfl)
        · exact .inl rfl
        · exact .inr (.inr ⟨ht, hts⟩)

theorem dedup_append_singleton (ss : List Specifier) (s : Specifier) : dedup (ss ++ [s]) = put s (dedup ss) := by
  rw [dedup, List.foldl_append]
  rfl

theorem distinct_dedup (ss : List Specifier) : Distinct (dedup ss) := by
  induction ss using List.reverseRecOn with
  | nil => exact List.Pairwise.nil
  | append_singleton ss s ih =>
    rw [dedup_append_singleton]
    exact ih.put s

/-- An entry is kept if no entry after it has its key. -/
theorem mem_dedup_iff {ss : List Specifier} {e : Specifier} :
    e ∈ dedup ss ↔ ∃ before after, ss = before ++ e :: after ∧ ∀ t ∈ after, e.key ≠ t.key := by
  induction ss using List.reverseRecOn with
  | nil => simp [dedup]
  | append_singleton ss s ih =>
    rw [dedup_append_singleton, mem_put_iff (distinct_dedup ss), ih]
    constructor
    · rintro (rfl | ⟨⟨before, after, rfl, hafter⟩, hkey⟩)
      · exact ⟨ss, [], rfl, by simp⟩
      · refine ⟨before, after ++ [s], by simp, fun t ht => ?_⟩
        rcases List.mem_append.1 ht with ht | ht
        · exact hafter t ht
        · exact List.mem_singleton.1 ht ▸ hkey
    · rintro ⟨before, after, hss, hafter⟩
      rcases List.eq_nil_or_concat after with rfl | ⟨after, u, rfl⟩
      · exact .inl (List.append_inj_right' hss rfl |> List.singleton_inj.1).symm
      · rw [List.concat_eq_append, ← List.cons_append, ← List.append_assoc] at hss
        obtain ⟨rfl, hu⟩ := List.append_inj' hss rfl
        obtain rfl := List.singleton_inj.1 hu
        rw [List.concat_eq_append] at hafter
        exact .inr ⟨⟨before, after, rfl, fun t ht => hafter t (List.mem_append_left _ ht)⟩, hafter _ (by simp)⟩

theorem mem_of_mem_dedup {ss : List Specifier} {e : Specifier} (h : e ∈ dedup ss) : e ∈ ss := by
  obtain ⟨before, after, rfl, -⟩ := mem_dedup_iff.1 h
  simp

end Specifier

/-! ## Declarations -/

namespace ImportDecl

theorem isStarForm_merge {decl : ImportDecl} {s : Specifier} (h : decl.isStarForm = false) (hs : s.form ≠ .star) :
    (decl.merge s).isStarForm = false := by
  rw [isStarForm, List.any_eq_false] at h ⊢
  intro e he
  rcases List.mem_append.1 (Specifier.mem_of_mem_dedup he) with he | he
  · exact h e he
  · rw [List.mem_singleton.1 he]
    simpa using hs

theorem imports_merge (decl : ImportDecl) (r : Request) : (decl.merge r.specifier).imports r.name = true := by
  refine List.any_eq_true.2 ⟨r.specifier, Specifier.mem_dedup_append_singleton _ _, ?_⟩
  simp [Request.specifier, Specifier.ofName]

end ImportDecl

/-! ## Documents -/

namespace Document

/-- The declarations of a document in which the one at an index was written anew. -/
theorem imports_modify {d : Document} {i : Nat} {f : Statement → Statement} {decl : ImportDecl}
    (hf : ∀ st, d.statements[i]? = some st → st.isImport = true ∧ (f st).import? = some decl) :
    (d.modify i f).imports = d.imports.map fun p => if p.1 = i then (i, decl) else p := by
  have hzip : (d.modify i f).statements.zipIdx =
      d.statements.zipIdx.map fun p => (if p.2 = i then f p.1 else p.1, p.2) := by
    apply List.ext_getElem?
    intro j
    simp only [modify, List.getElem?_zipIdx, List.getElem?_map, List.getElem?_modify, Option.map_map]
    cases d.statements[j]? with
    | none => rfl
    | some st => by_cases hij : i = j <;> simp [hij, eq_comm (a := j)]
  rw [imports, hzip, List.filterMap_map, imports, List.map_filterMap]
  apply List.filterMap_congr
  rintro ⟨st, j⟩ hst
  by_cases hij : j = i
  · subst hij
    obtain ⟨himport, hdecl⟩ := hf st (List.mk_mem_zipIdx_iff_getElem?.1 hst)
    obtain ⟨old, hold⟩ := Option.isSome_iff_exists.1 himport
    simp [hdecl, hold]
  · cases hst : st.import? <;> simp [hij, hst]

theorem valueImportsFrom_modify {d : Document} {origin : String} {i : Nat} {decl new : ImportDecl}
    {f : Statement → Statement} (honly : d.valueImportsFrom origin = [(i, decl)])
    (hf : ∀ st, (f st).import? = some new) (horigin : new.origin = decl.origin) (htype : new.typeOnly = decl.typeOnly) :
    (d.modify i f).valueImportsFrom origin = [(i, new)] := by
  have hmem : (i, decl) ∈ d.valueImportsFrom origin := honly ▸ List.mem_singleton_self _
  obtain ⟨st, hst, hdecl⟩ := mem_imports_iff.1 (mem_valueImportsFrom_iff.1 hmem).1
  have himports : (d.modify i f).imports = d.imports.map fun p => if p.1 = i then (i, new) else p := by
    refine imports_modify fun st' hst' => ⟨?_, hf st'⟩
    obtain rfl : st = st' := Option.some.inj (hst.symm.trans hst')
    simp [Statement.isImport, hdecl]
  -- the new declaration is of the module just as the old one is
  have hkeep : ∀ p ∈ d.imports,
      ((if p.1 = i then (i, new) else p).2.origin == origin && !(if p.1 = i then (i, new) else p).2.typeOnly) =
        (p.2.origin == origin && !p.2.typeOnly) := by
    intro p hp
    split
    · next hpi =>
      obtain ⟨st', hst', hp⟩ := mem_imports_iff.1 hp
      rw [hpi, hst] at hst'
      obtain rfl := Option.some.inj hst'
      obtain rfl : decl = p.2 := Option.some.inj (hdecl.symm.trans hp)
      rw [horigin, htype]
    · rfl
  have hfilter : (d.modify i f).valueImportsFrom origin =
      (d.valueImportsFrom origin).map fun p => if p.1 = i then (i, new) else p := by
    rw [valueImportsFrom, importsFrom, himports, valueImportsFrom, importsFrom, List.filter_filter, List.filter_filter,
      List.filter_map]
    congr 1
    apply List.filter_congr
    intro p hp
    rw [Function.comp_apply, Bool.and_comm, hkeep p hp, Bool.and_comm]
  rw [hfilter, honly]
  simp

end Document

namespace Session

theorem valueImportsFrom_mergeInto {r : Request} {s : Session} {i : Nat} {decl : ImportDecl}
    (honly : s.document.valueImportsFrom r.origin = [(i, decl)]) :
    (s.mergeInto r i decl).document.valueImportsFrom r.origin = [(i, decl.merge r.specifier)] :=
  Document.valueImportsFrom_modify honly (fun _ => rfl) rfl rfl

/-- Where a declaration has room for the requested name and lacks it, that declaration takes the name, and keeps an entry as
it was written unless one for the same export comes later. -/
theorem ensure_merges {src : Bytes} {n : Node} {r : Request} {s : Session} {i : Nat} {decl : ImportDecl}
    {written : List Specifier} (honly : s.document.valueImportsFrom r.origin = [(i, decl)])
    (hdecl : ImportDecl.ofNode? src n = some decl)
    (hwritten : List.Forall₂ (Specifier.Writes src) (ImportDecl.entryNodes n) written)
    (hapart : Specifier.Apart (written ++ [r.specifier])) (hstar : decl.isStarForm = false)
    (hlacks : decl.imports r.name = false) :
    ∃ s' merged, s.ensure r = .ok (true, s') ∧ s'.document.valueImportsFrom r.origin = [(i, merged)] ∧
      merged.specifiers.Pairwise (fun e t => ¬ e.SameExport t) ∧
      ∀ e, e ∈ merged.specifiers ↔
        ∃ before after, written ++ [r.specifier] = before ++ e :: after ∧ ∀ t ∈ after, ¬ e.SameExport t := by
  have hspecifiers := ImportDecl.specifiers_eq hdecl hwritten
  have hjoins : ∀ e ∈ written ++ [r.specifier], e.Joins := by
    intro e he
    rcases List.mem_append.1 he with he | he
    · rw [ImportDecl.isStarForm, List.any_eq_false, hspecifiers] at hstar
      exact Specifier.joins_of_writes hwritten he fun hform => hstar e he (by simp [hform])
    · rw [List.mem_singleton.1 he]
      exact .named _ _ _
  have hkey {e t : Specifier} (he : e ∈ written ++ [r.specifier]) (ht : t ∈ written ++ [r.specifier]) :
      e.key ≠ t.key ↔ ¬ e.SameExport t := not_congr (Specifier.key_eq_iff hjoins hapart he ht)
  have hmerged : (decl.merge r.specifier).specifiers = Specifier.dedup (written ++ [r.specifier]) := by
    rw [← hspecifiers]
    rfl
  refine ⟨s.mergeInto r i decl, decl.merge r.specifier, ?_, valueImportsFrom_mergeInto honly, ?_, fun e => ?_⟩
  · rw [ensure_eq, honly]
    simp [hstar, hlacks]
  · rw [hmerged]
    exact (Specifier.distinct_dedup _).imp_of_mem fun he ht h =>
      (hkey (Specifier.mem_of_mem_dedup he) (Specifier.mem_of_mem_dedup ht)).1 h
  · rw [hmerged, Specifier.mem_dedup_iff]
    refine exists_congr fun before => exists_congr fun after => and_congr_right fun hsplit =>
      forall₂_congr fun t ht => hkey ?_ ?_ <;> simp [hsplit, ht]

/-- A file that imports one name twice, under two others. -/
def twiceNamedFile : String := "import \x7b a as x, b, a as y \x7d from \"src/lib.logger\";\n"

/-- The tree of its declaration. -/
def twiceNamedDecl : Node :=
  ⟨"import_statement", true, false, 0, 51, none,
    [⟨"import_clause", true, false, 7, 28, none,
      [⟨"named_imports", true, false, 7, 28, none,
        [⟨"import_specifier", true, false, 9, 15, none,
            [⟨"identifier", true, false, 9, 10, some "name", []⟩,
              ⟨"identifier", true, false, 14, 15, some "alias", []⟩]⟩,
          ⟨"import_specifier", true, false, 17, 18, none, [⟨"identifier", true, false, 17, 18, some "name", []⟩]⟩,
          ⟨"import_specifier", true, false, 20, 26, none,
            [⟨"identifier", true, false, 20, 21, some "name", []⟩,
              ⟨"identifier", true, false, 25, 26, some "alias", []⟩]⟩]⟩]⟩,
      ⟨"string", true, false, 34, 50, some "source", []⟩]⟩

/-- The tree of that file. -/
def twiceNamedTree : Node := ⟨"program", true, false, 0, 52, none, [twiceNamedDecl]⟩

/-- The entries of its declaration. -/
def twiceNamed : List Specifier :=
  [⟨.named, some "a", some "x", false⟩, ⟨.named, some "b", none, false⟩, ⟨.named, some "a", some "y", false⟩]

theorem ensure_merges_twiceNamed :
    ∃ s' merged,
      ensure ⟨"logError", "src/lib.logger", none⟩ { document := .ofItems (Bytes.ofString twiceNamedFile) twiceNamedTree } =
        .ok (true, s') ∧
      s'.document.valueImportsFrom "src/lib.logger" = [(0, merged)] ∧
      ⟨.named, some "b", none, false⟩ ∈ merged.specifiers ∧ ⟨.named, some "a", some "y", false⟩ ∈ merged.specifiers := by
  have hentry {n name : Node} {e : Specifier} (hkind : n.kind = "import_specifier") (hname : n.child? "name" = some name)
      (htype : n.hasToken "type" = false) (htypeof : n.hasToken "typeof" = false)
      (he : ⟨.named, some (name.text (Bytes.ofString twiceNamedFile)),
        (n.child? "alias").map (Node.text (Bytes.ofString twiceNamedFile)), false⟩ = e) :
      Specifier.Writes (Bytes.ofString twiceNamedFile) n e := he ▸ .value hkind hname htype htypeof
  have hwritten : List.Forall₂ (Specifier.Writes (Bytes.ofString twiceNamedFile))
      (ImportDecl.entryNodes twiceNamedDecl) twiceNamed :=
    .cons (hentry rfl rfl rfl rfl (by decide +kernel)) (.cons (hentry rfl rfl rfl rfl (by decide +kernel))
      (.cons (hentry rfl rfl rfl rfl (by decide +kernel)) .nil))
  obtain ⟨s', merged, hensure, hvalues, -, hkept⟩ :=
    @ensure_merges (Bytes.ofString twiceNamedFile) twiceNamedDecl ⟨"logError", "src/lib.logger", none⟩
      { document := .ofItems (Bytes.ofString twiceNamedFile) twiceNamedTree } 0
      { origin := "src/lib.logger", specifiers := twiceNamed } twiceNamed (by decide +kernel) (by decide +kernel) hwritten
      (by decide) (by decide) (by decide)
  refine ⟨s', merged, hensure, hvalues, (hkept _).2 ⟨twiceNamed.take 1, _, rfl, ?_⟩,
    (hkept _).2 ⟨twiceNamed.take 2, _, rfl, ?_⟩⟩
  · decide
  · decide

/-- The first of the two entries binds a name that is bound no more. -/
theorem ensure_unbinds :
    ∃ s', ensure ⟨"logError", "src/lib.logger", none⟩
        { document := .ofItems (Bytes.ofString twiceNamedFile) twiceNamedTree } = .ok (true, s') ∧
      (∃ p ∈ (Document.ofItems (Bytes.ofString twiceNamedFile) twiceNamedTree).imports,
        ∃ e ∈ p.2.specifiers, e.bound = some "x") ∧
      ∀ p ∈ s'.document.imports, ∀ e ∈ p.2.specifiers, e.bound ≠ some "x" :=
  ⟨_, rfl, by decide +kernel, by decide +kernel⟩

end Session
end CallRedirect
