import CallRedirect.Proofs.EnsuredTwice
import CallRedirect.Proofs.Independence
import CallRedirect.Proofs.Recording
import Mathlib.Data.List.DropRight

/-! # Many requests

A document that imports no value from the modules that are asked for takes any number of requests. Each module gets one
declaration, at its first request, and its later requests add their names to it. The first declaration of all opens a
seam in the document, and every later one comes right below the one before it.

* `Request.declarations`: the declarations that a list of requests comes to.
* `Document.Seam`: where they go.
* `Document.declaring`: the document with the declarations in the seam; `withImport_declaring` and `modify_declaring`
  are the two ways in which one more request changes them.
* `Session.ensureAll_declarations`: what any list of requests does. -/

namespace CallRedirect
set_option autoImplicit false

/-! ## What the requests come to -/

theorem Specifier.put_of_absent {s : Specifier} {kept : List Specifier} (hs : ∀ t ∈ kept, t.key ≠ s.key) :
    put s kept = kept ++ [s] := by
  induction kept with
  | nil => rfl
  | cons t kept ih => simp [put, hs t List.mem_cons_self, ih fun u hu => hs u (List.mem_cons_of_mem t hu)]

theorem Specifier.dedup_of_distinct {ss : List Specifier} (h : Distinct ss) : dedup ss = ss := by
  induction ss using List.reverseRecOn with
  | nil => rfl
  | append_singleton ss s ih =>
    obtain ⟨hss, -, hs⟩ := List.pairwise_append.1 h
    rw [dedup_append_singleton, ih hss, put_of_absent fun t ht => hs t ht s (List.mem_singleton_self s)]

theorem eraseDups_concat {α : Type} [DecidableEq α] (l : List α) (a : α) :
    (l ++ [a]).eraseDups = if a ∈ l then l.eraseDups else l.eraseDups ++ [a] := by
  rw [List.eraseDups_append]
  by_cases ha : a ∈ l <;> simp [List.removeAll, List.eraseDups_cons, ha]

namespace Request

/-- The two requests ask for one name of one module, perhaps under different names. -/
def Same (q r : Request) : Prop := q.name = r.name ∧ q.origin = r.origin

instance (q r : Request) : Decidable (q.Same r) := inferInstanceAs (Decidable (_ ∧ _))

/-- The names asked for of a module, in the order of their first requests. -/
def names (rs : List Request) (origin : String) : List String :=
  ((rs.filter fun r => r.origin == origin).map name).eraseDups

/-- The declaration for a module: every name that is asked for, as its first request has it. -/
def declarationOf (rs : List Request) (origin : String) : ImportDecl where
  origin := origin
  specifiers := (names rs origin).filterMap fun n =>
    (rs.find? fun r => r.name == n && r.origin == origin).map specifier

/-- One declaration for each module, in the order of their first requests. -/
def declarations (rs : List Request) : List ImportDecl :=
  (rs.map origin).eraseDups.map (declarationOf rs)

theorem mem_names_iff {rs : List Request} {origin n : String} :
    n ∈ names rs origin ↔ ∃ q ∈ rs, q.name = n ∧ q.origin = origin := by
  simp only [names, List.mem_eraseDups, List.mem_map, List.mem_filter, beq_iff_eq]
  exact ⟨fun ⟨q, hq, hn⟩ => ⟨q, hq.1, hn, hq.2⟩, fun ⟨q, hq, hn, ho⟩ => ⟨q, ⟨hq, ho⟩, hn⟩⟩

theorem forall_not_same_iff {rs : List Request} {r : Request} :
    (∀ q ∈ rs, ¬ q.Same r) ↔ r.name ∉ names rs r.origin := by
  simp [mem_names_iff, Same]

section Snoc
variable {rs : List Request} {r : Request}

theorem declarationOf_concat_of_ne {o : String} (ho : r.origin ≠ o) :
    declarationOf (rs ++ [r]) o = declarationOf rs o := by
  have hnames : names (rs ++ [r]) o = names rs o := by simp [names, ho]
  simp [declarationOf, hnames, List.find?_append, ho]

/-- The first request for a name counts, and a later one changes nothing. -/
theorem specifiers_concat (n : String) (hn : n ∈ names rs r.origin) :
    (rs ++ [r]).find? (fun q => q.name == n && q.origin == r.origin) =
      rs.find? fun q => q.name == n && q.origin == r.origin := by
  obtain ⟨q, hq, hname, horigin⟩ := mem_names_iff.1 hn
  have hsome : (rs.find? fun q => q.name == n && q.origin == r.origin).isSome := by
    rw [List.find?_isSome]
    exact ⟨q, hq, by simp [hname, horigin]⟩
  rw [List.find?_append, Option.or_of_isSome hsome]

theorem declarationOf_concat_of_mem (hn : r.name ∈ names rs r.origin) :
    declarationOf (rs ++ [r]) r.origin = declarationOf rs r.origin := by
  have hnames : names (rs ++ [r]) r.origin = names rs r.origin := by
    rw [names, names, List.filter_append, List.map_append]
    simp only [names, List.mem_eraseDups] at hn
    simp [eraseDups_concat, hn]
  rw [declarationOf, declarationOf, hnames]
  congr 1
  exact List.filterMap_congr fun n hn => congrArg _ (specifiers_concat n hn)

theorem declarationOf_concat_of_not_mem (hn : r.name ∉ names rs r.origin) :
    declarationOf (rs ++ [r]) r.origin =
      { declarationOf rs r.origin with specifiers := (declarationOf rs r.origin).specifiers ++ [r.specifier] } := by
  have hnames : names (rs ++ [r]) r.origin = names rs r.origin ++ [r.name] := by
    rw [names, names, List.filter_append, List.map_append]
    simp only [names, List.mem_eraseDups] at hn
    simp [eraseDups_concat, hn]
  have hfirst : (rs ++ [r]).find? (fun q => q.name == r.name && q.origin == r.origin) = some r := by
    have hnone : rs.find? (fun q => q.name == r.name && q.origin == r.origin) = none := by
      rw [List.find?_eq_none]
      intro q hq hsame
      exact hn (mem_names_iff.2 ⟨q, hq, by simpa using hsame⟩)
    simp [List.find?_append, hnone]
  rw [declarationOf, hnames, List.filterMap_append, declarationOf]
  congr 1
  congr 1
  · exact List.filterMap_congr fun n hn => congrArg _ (specifiers_concat n hn)
  · simp only [List.filterMap_cons, hfirst, Option.map_some, List.filterMap_nil]

end Snoc

theorem key_specifier (r : Request) : r.specifier.key = r.name := rfl

theorem mem_specifiers {rs : List Request} {o : String} {e : Specifier} (he : e ∈ (declarationOf rs o).specifiers) :
    ∃ q ∈ rs, q.origin = o ∧ e = q.specifier := by
  obtain ⟨n, -, he⟩ := List.mem_filterMap.1 he
  obtain ⟨q, hq, rfl⟩ := Option.map_eq_some_iff.1 he
  have hsame := List.find?_some hq
  simp only [Bool.and_eq_true, beq_iff_eq] at hsame
  exact ⟨q, List.mem_of_find?_eq_some hq, hsame.2, rfl⟩

theorem isStarForm_declarationOf (rs : List Request) (o : String) : (declarationOf rs o).isStarForm = false := by
  rw [ImportDecl.isStarForm, List.any_eq_false]
  intro e he
  obtain ⟨q, -, -, rfl⟩ := mem_specifiers he
  simp [specifier, Specifier.ofName]

theorem imports_declarationOf (rs : List Request) (o n : String) :
    (declarationOf rs o).imports n = true ↔ n ∈ names rs o := by
  rw [ImportDecl.imports, List.any_eq_true, mem_names_iff]
  constructor
  · rintro ⟨e, he, hn⟩
    obtain ⟨q, hq, ho, rfl⟩ := mem_specifiers he
    exact ⟨q, hq, by simpa [specifier, Specifier.ofName] using hn, ho⟩
  · rintro ⟨q, hq, hn, ho⟩
    have hname : n ∈ names rs o := mem_names_iff.2 ⟨q, hq, hn, ho⟩
    obtain ⟨p, hp⟩ : ∃ p, rs.find? (fun r => r.name == n && r.origin == o) = some p :=
      Option.isSome_iff_exists.1 (List.find?_isSome.2 ⟨q, hq, by simp [hn, ho]⟩)
    have hsame := List.find?_some hp
    simp only [Bool.and_eq_true, beq_iff_eq] at hsame
    refine ⟨p.specifier, List.mem_filterMap.2 ⟨n, hname, by rw [hp, Option.map_some]⟩, ?_⟩
    simp [specifier, Specifier.ofName, hsame.1]

theorem distinct_declarationOf (rs : List Request) (o : String) : Specifier.Distinct (declarationOf rs o).specifiers := by
  induction rs using List.reverseRecOn with
  | nil => exact List.Pairwise.nil
  | append_singleton rs r ih =>
    by_cases ho : r.origin = o
    · subst ho
      by_cases hn : r.name ∈ names rs r.origin
      · rw [declarationOf_concat_of_mem hn]
        exact ih
      · rw [declarationOf_concat_of_not_mem hn]
        refine List.pairwise_append.2 ⟨ih, List.pairwise_singleton _ _, fun e he t ht => ?_⟩
        obtain ⟨q, hq, ho, rfl⟩ := mem_specifiers he
        rw [List.mem_singleton.1 ht, key_specifier, key_specifier]
        exact fun hname => hn (mem_names_iff.2 ⟨q, hq, hname, ho⟩)
    · rw [declarationOf_concat_of_ne ho]
      exact ih

/-- A declaration has one entry for each name, so that an entry for a new name comes to the end. -/
theorem merge_declarationOf {rs : List Request} {r : Request} (hn : r.name ∉ names rs r.origin) :
    (declarationOf rs r.origin).merge r.specifier = declarationOf (rs ++ [r]) r.origin := by
  have hdistinct := distinct_declarationOf (rs ++ [r]) r.origin
  rw [declarationOf_concat_of_not_mem hn] at hdistinct
  rw [declarationOf_concat_of_not_mem hn, ImportDecl.merge, Specifier.dedup_of_distinct hdistinct]

theorem declarations_ne_nil {rs : List Request} (hrs : rs ≠ []) : declarations rs ≠ [] := by
  cases rs with
  | nil => exact absurd rfl hrs
  | cons r rs => simp [declarations, List.eraseDups_cons]

/-- The first request for a module adds a declaration. -/
theorem declarations_concat_of_not_mem {rs : List Request} {r : Request} (ho : r.origin ∉ rs.map origin) :
    declarations (rs ++ [r]) = declarations rs ++ [r.declaration] := by
  have hnew : declarationOf (rs ++ [r]) r.origin = r.declaration := by
    have hnames : names rs r.origin = [] := by
      refine List.eq_nil_iff_forall_not_mem.2 fun n hn => ?_
      obtain ⟨q, hq, -, horigin⟩ := mem_names_iff.1 hn
      exact ho (horigin ▸ List.mem_map_of_mem hq)
    rw [declarationOf_concat_of_not_mem (by simp [hnames])]
    simp [declarationOf, hnames, declaration]
  rw [declarations, List.map_append, List.map_singleton, eraseDups_concat, if_neg ho, List.map_append, List.map_singleton,
    hnew, declarations]
  congr 1
  refine List.map_congr_left fun o hmem => declarationOf_concat_of_ne ?_
  rintro rfl
  exact ho (List.mem_eraseDups.1 hmem)

/-- A later request for a module concerns the declaration of that module only. -/
theorem declarations_concat_of_mem {rs : List Request} {r : Request} (ho : r.origin ∈ rs.map origin) :
    ∃ before after, declarations rs = before ++ declarationOf rs r.origin :: after ∧
      declarations (rs ++ [r]) = before ++ declarationOf (rs ++ [r]) r.origin :: after ∧
      ∀ other ∈ before ++ after, other.origin ≠ r.origin := by
  obtain ⟨us, vs, horigins⟩ := List.append_of_mem (List.mem_eraseDups.2 ho)
  have hnodup := Session.nodup_eraseDups (rs.map origin)
  rw [horigins, List.nodup_middle, List.nodup_cons] at hnodup
  have hne : ∀ o ∈ us ++ vs, r.origin ≠ o := fun o ho heq => hnodup.1 (heq ▸ ho)
  refine ⟨us.map (declarationOf rs), vs.map (declarationOf rs), ?_, ?_, ?_⟩
  · simp [declarations, horigins]
  · rw [declarations, List.map_append, List.map_singleton, eraseDups_concat, if_pos ho, horigins, List.map_append,
      List.map_cons]
    congr 1
    · exact List.map_congr_left fun o ho => declarationOf_concat_of_ne (hne o (List.mem_append_left vs ho))
    · congr 1
      exact List.map_congr_left fun o ho => declarationOf_concat_of_ne (hne o (List.mem_append_right us ho))
  · intro other hother
    rw [← List.map_append] at hother
    obtain ⟨o, ho, rfl⟩ := List.mem_map.1 hother
    exact (hne o ho).symm

end Request

/-! ## Parts -/

namespace Document

/-- What a document consists of: its comments, and its statements without them. -/
inductive Part where
  | comment (c : Comment)
  | statement (s : Statement)
  deriving DecidableEq

end Document

/-- A statement between its comments. -/
def Statement.parts (s : Statement) : List Document.Part :=
  s.leading.map .comment ++ .statement { s with leading := [], trailing := [] } :: s.trailing.map .comment

namespace Document

/-- The parts of a document, in the order in which they print. -/
def parts (d : Document) : List Part := d.comments.map .comment ++ d.statements.flatMap Statement.parts

/-- The parts above a new import: those down to the last import with its comments; without an import the comments of
the file, and without these the ones that lead the first statement. -/
def partsAbove (d : Document) : List Part :=
  if d.statements.any Statement.isImport then
    d.comments.map .comment ++ (d.statements.rdropWhile Statement.isPlain).flatMap Statement.parts
  else if !d.comments.isEmpty then d.comments.map .comment
  else ((d.statements.head?.map Statement.leading).getD []).map .comment

/-! ## The seam -/

/-- New imports go between `upper` and `lower`, and the comments `leading` go above the first of them. -/
structure Seam (d : Document) (upper : List Statement) (leading : List Comment) (lower : List Statement) : Prop where
  plain : ∀ s ∈ lower, s.isPlain = true
  imports : d.imports = importsOf upper 0
  above : d.partsAbove = d.comments.map .comment ++ upper.flatMap Statement.parts ++ leading.map .comment
  parts : d.parts = d.partsAbove ++ lower.flatMap Statement.parts

/-- New imports, the first of them below some comments. -/
def newImports (leading : List Comment) (decls : List ImportDecl) : List Statement :=
  (decls.map Statement.ofImport).modifyHead fun s => { s with leading := leading }

/-- The document with new imports between `upper` and `lower`. -/
def declaring (d : Document) (upper : List Statement) (leading : List Comment) (lower : List Statement)
    (decls : List ImportDecl) : Document :=
  { d with statements := upper ++ newImports leading decls ++ lower }

section Seam
variable {d : Document} {upper lower : List Statement} {leading : List Comment} {decls : List ImportDecl}

theorem newImports_nil (decls : List ImportDecl) : newImports [] decls = decls.map Statement.ofImport := by
  cases decls <;> rfl

theorem newImports_concat (hdecls : decls ≠ []) (decl : ImportDecl) :
    newImports leading (decls ++ [decl]) = newImports leading decls ++ [Statement.ofImport decl] := by
  cases decls with
  | nil => exact absurd rfl hdecls
  | cons first more => simp [newImports]

theorem exists_newImports_eq (leading : List Comment) (hdecls : decls ≠ []) :
    ∃ ss s, newImports leading decls = ss ++ [s] ∧ s.isPlain = false := by
  rcases List.eq_nil_or_concat decls with rfl | ⟨init, last, rfl⟩
  · exact absurd rfl hdecls
  · rw [List.concat_eq_append]
    by_cases hinit : init = []
    · subst hinit
      exact ⟨[], _, rfl, rfl⟩
    · exact ⟨_, _, newImports_concat hinit last, rfl⟩

theorem parts_declaring (hseam : d.Seam upper leading lower) (hdecls : decls ≠ []) :
    (d.declaring upper leading lower decls).parts =
      d.partsAbove ++ decls.map (Part.statement ∘ Statement.ofImport) ++ lower.flatMap Statement.parts := by
  have hnew : (newImports leading decls).flatMap Statement.parts =
      leading.map .comment ++ decls.map (Part.statement ∘ Statement.ofImport) := by
    cases decls with
    | nil => exact absurd rfl hdecls
    | cons first more =>
      simp only [newImports, List.map_cons, List.modifyHead_cons, List.flatMap_cons, List.flatMap_map]
      simp [Statement.parts, Statement.ofImport, List.map_eq_flatMap]
  rw [hseam.above]
  simp [parts, declaring, hnew]

theorem rdropWhile_isPlain {s : Statement} (hs : s.isPlain = false) {ts : List Statement}
    (hts : ∀ t ∈ ts, t.isPlain = true) (ss : List Statement) :
    (ss ++ s :: ts).rdropWhile Statement.isPlain = ss ++ [s] := by
  have hreverse : ∀ t ∈ ts.reverse, t.isPlain = true := fun t ht => hts t (List.mem_reverse.1 ht)
  simp [List.rdropWhile, List.dropWhile_append_of_pos hreverse, hs]

/-- A new import comes right below the ones that are there. -/
theorem withImport_declaring (hplain : ∀ s ∈ lower, s.isPlain = true) (hdecls : decls ≠ []) (r : Request) :
    (d.declaring upper leading lower decls).withImport r =
      d.declaring upper leading lower (decls ++ [r.declaration]) := by
  obtain ⟨ss, s, hnew, hs⟩ := exists_newImports_eq leading hdecls
  have hstatements : (d.declaring upper leading lower decls).statements = (upper ++ ss) ++ s :: lower := by
    simp [declaring, hnew]
  have hthrough := rdropWhile_isPlain hs hplain (upper ++ ss)
  have hbelow : ((upper ++ ss) ++ s :: lower).rtakeWhile Statement.isPlain = lower := by
    have happend := @List.rdropWhile_append_rtakeWhile _ Statement.isPlain ((upper ++ ss) ++ s :: lower)
    rw [hthrough] at happend
    simpa using happend
  rw [withImport, insertAfterImports?_eq, hstatements, hthrough, hbelow]
  simp [declaring, newImports_concat hdecls, hnew, Request.statement_eq]

theorem withImport_of_plain (hplain : ∀ s ∈ d.statements, s.isPlain = true) (r : Request) :
    d.withImport r = (d.insertAtTop (Statement.ofImport r.declaration)).2 := by
  rw [withImport, insertAfterImports?_eq, List.rdropWhile_eq_nil_iff.2 hplain]
  rfl

/-- In a document without comments of its own a new import comes between the first statement and the comments that lead
it. -/
theorem insertAtTop_first (hcomments : d.comments = []) {first : Statement} {rest : List Statement}
    (hstatements : d.statements = first :: rest) :
    ∃ lower, (∀ decl, (d.insertAtTop (Statement.ofImport decl)).2 = d.declaring [] first.leading lower [decl]) ∧
      (first.leading.map .comment ++ lower.flatMap Statement.parts : List Part) =
        d.statements.flatMap Statement.parts ∧
      lower.map Statement.form = d.statements.map Statement.form := by
  by_cases hfirst : first.hasComments = true
  · cases rest with
    | nil =>
      refine ⟨[{ first with leading := [] }], fun decl => ?_, ?_, ?_⟩
      · simp [insertAtTop, declaring, newImports, hcomments, hstatements, hfirst]
      · simp [Statement.parts, hstatements]
      · simp [hstatements]
    | cons second rest =>
      refine ⟨{ first with leading := [], trailing := [] } ::
        { second with leading := first.trailing ++ second.leading } :: rest, fun decl => ?_, ?_, ?_⟩
      · simp [insertAtTop, declaring, newImports, hcomments, hstatements, hfirst]
      · simp [Statement.parts, hstatements]
      · simp [hstatements]
  · have hleading : first.leading = [] := by
      simp only [Statement.hasComments, Bool.or_eq_true, Bool.not_eq_true', List.isEmpty_eq_false_iff, not_or,
        not_not] at hfirst
      exact hfirst.1
    refine ⟨d.statements, fun decl => ?_, ?_, rfl⟩
    · simp [insertAtTop, insert, declaring, newImports_nil, hcomments, hstatements, hfirst, hleading]
    · rw [hleading, List.map_nil, List.nil_append]

theorem isPlain_of_forms {ss ts : List Statement} (hforms : ss.map Statement.form = ts.map Statement.form)
    (hts : ∀ t ∈ ts, t.isPlain = true) : ∀ s ∈ ss, s.isPlain = true := by
  intro s hs
  have hform : s.form ∈ ts.map Statement.form := hforms ▸ List.mem_map_of_mem hs
  obtain ⟨t, ht, hform⟩ := List.mem_map.1 hform
  simpa [Statement.isPlain, Statement.isImport, Statement.import?, hform] using hts t ht

/-- The first new import opens the seam. -/
theorem exists_seam (d : Document) :
    ∃ upper leading lower, d.Seam upper leading lower ∧
      ∀ r, d.withImport r = d.declaring upper leading lower [r.declaration] := by
  by_cases hplain : ∀ s ∈ d.statements, s.isPlain = true
  · have hany : d.statements.any Statement.isImport = false := by
      simpa [Statement.isPlain] using hplain
    have himports : d.imports = [] := importsOf_eq_nil hplain 0
    by_cases hcomments : d.comments = []
    · cases hstatements : d.statements with
      | nil =>
        refine ⟨[], [], [], ⟨by simp, himports, ?_, ?_⟩, fun r => ?_⟩
        · simp [partsAbove, hcomments, hstatements]
        · simp [partsAbove, parts, hcomments, hstatements]
        · rw [withImport_of_plain hplain]
          simp [insertAtTop, insert, declaring, newImports_nil, hcomments, hstatements]
      | cons first rest =>
        obtain ⟨lower, htop, hparts, hforms⟩ := insertAtTop_first hcomments hstatements
        have habove : d.partsAbove = first.leading.map .comment := by
          rw [partsAbove, hany]
          simp [hcomments, hstatements]
        refine ⟨[], first.leading, lower, ⟨isPlain_of_forms hforms hplain, himports, ?_, ?_⟩, fun r => ?_⟩
        · simp [habove, hcomments]
        · rw [habove, hparts]
          simp [parts, hcomments]
        · rw [withImport_of_plain hplain, htop]
    · refine ⟨[], [], d.statements, ⟨hplain, himports, ?_, ?_⟩, fun r => ?_⟩
      · simp [partsAbove, hany, hcomments]
      · simp [partsAbove, parts, hany, hcomments]
      · rw [withImport_of_plain hplain]
        simp [insertAtTop, insert, declaring, newImports_nil, hcomments]
  · have hany : d.statements.any Statement.isImport = true := by
      simpa [Statement.isPlain] using hplain
    have hnil : d.statements.rdropWhile Statement.isPlain ≠ [] := fun h => hplain (List.rdropWhile_eq_nil_iff.1 h)
    refine ⟨d.statements.rdropWhile Statement.isPlain, [], d.statements.rtakeWhile Statement.isPlain,
      ⟨fun s hs => List.mem_rtakeWhile_imp hs, d.imports_eq_importsOf, ?_, ?_⟩, fun r => ?_⟩
    · simp [partsAbove, hany]
    · simp only [partsAbove, parts, hany, if_true, List.append_assoc]
      rw [← List.flatMap_append, List.rdropWhile_append_rtakeWhile]
    · rw [withImport, insertAfterImports?_eq]
      simp [declaring, newImports_nil, hnil, Request.statement_eq]

/-! ## The declarations in the seam -/

theorem importsOf_newImports (leading : List Comment) (decls : List ImportDecl) (n : Nat) :
    importsOf (newImports leading decls) n = (decls.zipIdx n).map Prod.swap := by
  have hmap (decls : List ImportDecl) (n : Nat) :
      importsOf (decls.map Statement.ofImport) n = (decls.zipIdx n).map Prod.swap := by
    rw [importsOf, List.zipIdx_map, List.filterMap_map, ← List.filterMap_eq_map]
    rfl
  cases decls with
  | nil => rfl
  | cons first more => exact hmap (first :: more) n

theorem imports_declaring (hseam : d.Seam upper leading lower) :
    (d.declaring upper leading lower decls).imports = d.imports ++ (decls.zipIdx upper.length).map Prod.swap := by
  have hsplit : (d.declaring upper leading lower decls).imports =
      importsOf (upper ++ newImports leading decls ++ lower) 0 := rfl
  rw [hsplit, importsOf_append, importsOf_append, importsOf_eq_nil hseam.plain, List.append_nil, importsOf_newImports,
    Nat.zero_add, hseam.imports]

theorem filter_swap_eq_nil {others : List ImportDecl} {o : String} (h : ∀ other ∈ others, other.origin ≠ o) (n : Nat) :
    ((others.zipIdx n).map Prod.swap).filter (fun p => p.2.origin == o) = [] := by
  rw [List.filter_eq_nil_iff]
  intro p hp
  obtain ⟨⟨other, i⟩, hother, rfl⟩ := List.mem_map.1 hp
  simpa using h other (List.fst_mem_of_mem_zipIdx hother)

theorem valueImportsFrom_declaring_of_ne (hseam : d.Seam upper leading lower) {o : String}
    (hothers : ∀ other ∈ decls, other.origin ≠ o) :
    (d.declaring upper leading lower decls).valueImportsFrom o = d.valueImportsFrom o := by
  rw [valueImportsFrom, importsFrom, imports_declaring hseam, List.filter_append, filter_swap_eq_nil hothers,
    List.append_nil]
  rfl

/-- A module that no value was imported from has the one declaration that is put in for it. -/
theorem valueImportsFrom_declaring (hseam : d.Seam upper leading lower) {before after : List ImportDecl}
    (decl : ImportDecl) (hnone : d.valueImportsFrom decl.origin = []) (hvalue : decl.typeOnly = false)
    (hothers : ∀ other ∈ before ++ after, other.origin ≠ decl.origin) :
    (d.declaring upper leading lower (before ++ decl :: after)).valueImportsFrom decl.origin =
      [(upper.length + before.length, decl)] := by
  have hbefore := filter_swap_eq_nil (fun other h => hothers other (List.mem_append_left after h)) upper.length
  have hafter := filter_swap_eq_nil (fun other h => hothers other (List.mem_append_right before h))
    (upper.length + before.length + 1)
  rw [valueImportsFrom, importsFrom] at hnone ⊢
  rw [imports_declaring hseam, List.filter_append, List.filter_append, hnone, List.nil_append, List.zipIdx_append,
    List.map_append, List.filter_append, hbefore, List.nil_append, List.zipIdx_cons, List.map_cons, List.filter_cons]
  simp [hafter, hvalue]

/-- One more entry for one of the declarations. -/
theorem modify_declaring (d : Document) (upper lower : List Statement) (leading : List Comment)
    (before after : List ImportDecl) (decl : ImportDecl) (spec : Specifier) :
    ((d.declaring upper leading lower (before ++ decl :: after)).modify (upper.length + before.length)
        fun s => s.merge decl spec) =
      d.declaring upper leading lower (before ++ decl.merge spec :: after) := by
  have hnew : ∃ ss s ts, newImports leading (before ++ decl :: after) = ss ++ s :: ts ∧ ss.length = before.length ∧
      newImports leading (before ++ decl.merge spec :: after) = ss ++ s.merge decl spec :: ts := by
    cases before with
    | nil => exact ⟨[], _, _, rfl, rfl, rfl⟩
    | cons first more =>
      refine ⟨newImports leading (first :: more), Statement.ofImport decl, after.map Statement.ofImport, ?_, ?_, ?_⟩
      · simp [newImports]
      · simp [newImports]
      · simp [newImports, Statement.merge, Statement.ofImport]
  obtain ⟨ss, s, ts, hold, hlength, hnew⟩ := hnew
  have hstatements : (upper ++ newImports leading (before ++ decl :: after) ++ lower) =
      (upper ++ ss) ++ s :: (ts ++ lower) := by simp [hold]
  rw [modify, declaring, declaring, hstatements, hnew, ← hlength, ← List.length_append, List.modify_eq_take_drop,
    List.take_left, List.drop_left]
  simp

end Seam

end Document

/-! ## Requests in a row -/

namespace Session

/-- Ensures one import after the other, and gives the answers. -/
def ensureAll : List Request → Session → Except Failure (List Bool × Session)
  | [], s => .ok ([], s)
  | r :: rs, s => do
    let (changed, s) ← s.ensure r
    let (answers, s) ← ensureAll rs s
    return (changed :: answers, s)

theorem ensureAll_concat {rs : List Request} {r : Request} {s s₁ s₂ : Session} {answers : List Bool} {changed : Bool}
    (hrs : s.ensureAll rs = .ok (answers, s₁)) (hr : s₁.ensure r = .ok (changed, s₂)) :
    s.ensureAll (rs ++ [r]) = .ok (answers ++ [changed], s₂) := by
  induction rs generalizing s answers with
  | nil =>
    obtain ⟨rfl, rfl⟩ := Prod.mk.inj (Except.ok.inj hrs)
    simp [ensureAll, hr, bind, Except.bind, pure, Except.pure]
  | cons q rs ih =>
    obtain ⟨⟨first, s'⟩, hq, hrs⟩ := Failure.bind_eq_ok_iff.1 hrs
    obtain ⟨⟨rest, s''⟩, hrest, hpair⟩ := Failure.bind_eq_ok_iff.1 hrs
    obtain ⟨rfl, rfl⟩ := Prod.mk.inj (Except.ok.inj hpair)
    rw [List.cons_append, ensureAll, hq]
    simp [ih hrest, bind, Except.bind, pure, Except.pure]

section Requests
variable {d : Document} {upper lower : List Statement} {leading : List Comment} {rs : List Request} {r : Request}

/-- One more request, once the seam is open. -/
theorem ensure_declaring (hseam : d.Seam upper leading lower) (hrs : rs ≠ [])
    (hnone : d.valueImportsFrom r.origin = []) {s : Session}
    (hs : s.document = d.declaring upper leading lower (Request.declarations rs)) :
    ∃ s', s.ensure r = .ok (decide (∀ q ∈ rs, ¬ q.Same r), s') ∧
      s'.document = d.declaring upper leading lower (Request.declarations (rs ++ [r])) := by
  by_cases ho : r.origin ∈ rs.map Request.origin
  · obtain ⟨before, after, hold, hnew, hothers⟩ := Request.declarations_concat_of_mem ho
    have honly : s.document.valueImportsFrom r.origin =
        [(upper.length + before.length, Request.declarationOf rs r.origin)] := by
      rw [hs, hold]
      exact Document.valueImportsFrom_declaring hseam (Request.declarationOf rs r.origin) hnone rfl hothers
    have hstar := Request.isStarForm_declarationOf rs r.origin
    by_cases hn : r.name ∈ Request.names rs r.origin
    · have hanswer : decide (∀ q ∈ rs, ¬ q.Same r) = false :=
        decide_eq_false fun h => Request.forall_not_same_iff.1 h hn
      refine ⟨s.noteImport "already present" r, ?_, ?_⟩
      · rw [hanswer]
        exact ensure_of_imports honly hstar ((Request.imports_declarationOf rs r.origin r.name).2 hn)
      · rw [hnew, Request.declarationOf_concat_of_mem hn, ← hold, ← hs]
        rfl
    · have hanswer : decide (∀ q ∈ rs, ¬ q.Same r) = true := decide_eq_true (Request.forall_not_same_iff.2 hn)
      have hlacks : (Request.declarationOf rs r.origin).imports r.name = false :=
        Bool.eq_false_iff.2 (mt (Request.imports_declarationOf rs r.origin r.name).1 hn)
      refine ⟨s.mergeInto r (upper.length + before.length) (Request.declarationOf rs r.origin), ?_, ?_⟩
      · rw [hanswer, ensure_eq, honly]
        simp [hstar, hlacks]
      · have hmerge := d.modify_declaring upper lower leading before after (Request.declarationOf rs r.origin)
          r.specifier
        rw [← hold, ← hs, Request.merge_declarationOf hn, ← hnew] at hmerge
        exact hmerge
  · have hnone' : s.document.valueImportsFrom r.origin = [] := by
      rw [hs, Document.valueImportsFrom_declaring_of_ne hseam, hnone]
      intro other hother horigin
      obtain ⟨o, hmem, rfl⟩ := List.mem_map.1 hother
      exact ho (horigin ▸ List.mem_eraseDups.1 hmem)
    have hanswer : decide (∀ q ∈ rs, ¬ q.Same r) = true :=
      decide_eq_true fun q hq hsame => ho (hsame.2 ▸ List.mem_map_of_mem hq)
    refine ⟨s.insertImport r, ?_, ?_⟩
    · rw [hanswer, ensure_eq, hnone']
    · rw [Request.declarations_concat_of_not_mem ho,
        ← Document.withImport_declaring hseam.plain (Request.declarations_ne_nil hrs), ← hs]
      exact document_insertImport s r

/-- What a list of requests makes of a document, if the first of them opens the given seam. -/
theorem ensureAll_declaring {s : Session} (hseam : s.document.Seam upper leading lower)
    (hopen : ∀ r, s.document.withImport r = s.document.declaring upper leading lower [r.declaration])
    (hnone : ∀ r ∈ rs, s.document.valueImportsFrom r.origin = []) :
    ∃ s', s.ensureAll rs = .ok (rs.mapIdx fun i r => decide (∀ q ∈ rs.take i, ¬ q.Same r), s') ∧
      s'.document =
        if rs = [] then s.document else s.document.declaring upper leading lower (Request.declarations rs) := by
  -- one request after the other, from the front: each sees the declarations of those before it
  induction rs using List.reverseRecOn with
  | nil => exact ⟨s, rfl, rfl⟩
  | append_singleton rs r ih =>
    obtain ⟨s₁, hrs, hdocument⟩ := ih fun q hq => hnone q (List.mem_append_left [r] hq)
    have hr : s.document.valueImportsFrom r.origin = [] := hnone r (by simp)
    obtain ⟨s₂, hensure, hs₂⟩ : ∃ s₂, s₁.ensure r = .ok (decide (∀ q ∈ rs, ¬ q.Same r), s₂) ∧
        s₂.document = s.document.declaring upper leading lower (Request.declarations (rs ++ [r])) := by
      by_cases hnil : rs = []
      · subst hnil
        rw [if_pos rfl] at hdocument
        refine ⟨s₁.insertImport r, ?_, ?_⟩
        · rw [ensure_eq, hdocument, hr]
          simp
        · rw [Request.declarations_concat_of_not_mem (by simp)]
          refine Eq.trans ?_ (hopen r)
          rw [← hdocument]
          exact document_insertImport s₁ r
      · rw [if_neg hnil] at hdocument
        exact ensure_declaring hseam hnil hr hdocument
    refine ⟨s₂, ?_, ?_⟩
    · have hearlier : rs.mapIdx (fun i p => decide (∀ q ∈ (rs ++ [r]).take i, ¬ q.Same p)) =
          rs.mapIdx fun i p => decide (∀ q ∈ rs.take i, ¬ q.Same p) := by
        refine List.mapIdx_eq_mapIdx_iff.2 fun i hi => ?_
        rw [List.take_append_of_le_length (Nat.le_of_lt hi)]
      rw [ensureAll_concat hrs hensure, List.mapIdx_append, hearlier]
      simp
    · rw [hs₂, if_neg (by simp)]

/-- Any list of requests for modules that no value is imported from succeeds. A request changes the document unless one
for the same name of the same module came before it. In the end each module has one declaration, with its names in the
order of their first requests and as these have them. The declarations stand together, in the order of their modules'
first requests, below the last import or else at the top; all other parts of the document are the same and in the same
order. -/
theorem ensureAll_declarations (rs : List Request) (s : Session)
    (hnone : ∀ r ∈ rs, s.document.valueImportsFrom r.origin = []) :
    ∃ answers s', s.ensureAll rs = .ok (answers, s') ∧
      answers = rs.mapIdx (fun i r => decide (∀ q ∈ rs.take i, ¬ q.Same r)) ∧
      (∀ r ∈ rs, ∃ n, s'.document.valueImportsFrom r.origin = [(n, Request.declarationOf rs r.origin)]) ∧
      ∃ below, s.document.parts = s.document.partsAbove ++ below ∧
        s'.document.parts =
          s.document.partsAbove ++
            (Request.declarations rs).map (fun decl => .statement (Statement.ofImport decl)) ++ below := by
  obtain ⟨upper, leading, lower, hseam, hopen⟩ := s.document.exists_seam
  obtain ⟨s', hensure, hdocument⟩ := ensureAll_declaring hseam hopen hnone
  refine ⟨_, s', hensure, rfl, fun r hr => ?_, lower.flatMap Statement.parts, hseam.parts, ?_⟩
  · obtain ⟨before, after, hsplit, -, hothers⟩ := Request.declarations_concat_of_mem (List.mem_map_of_mem hr)
    rw [hdocument, if_neg (List.ne_nil_of_mem hr), hsplit]
    exact ⟨_, Document.valueImportsFrom_declaring hseam (Request.declarationOf rs r.origin) (hnone r hr) rfl hothers⟩
  · by_cases hnil : rs = []
    · subst hnil
      rw [hdocument, if_pos rfl, hseam.parts]
      simp [Request.declarations]
    · rw [hdocument, if_neg hnil, Document.parts_declaring hseam (Request.declarations_ne_nil hnil)]
      rfl

end Requests

/-- A file whose first statement has comments on both sides. -/
def flankedFile : String := "// a\nfoo(); // b\nbar();\n"

/-- The tree of that file. -/
def flankedTree : Node :=
  ⟨"program", true, false, 0, 24, none,
    [⟨"comment", true, false, 0, 4, none, []⟩, ⟨"expression_statement", true, false, 5, 11, none, []⟩,
      ⟨"comment", true, false, 12, 16, none, []⟩, ⟨"expression_statement", true, false, 17, 23, none, []⟩]⟩

/-- The two names of the first module share a declaration, and the second request for one of them changes nothing. -/
theorem ensureAll_flanked :
    let d := Document.ofItems (Bytes.ofString flankedFile) flankedTree
    let first : ImportDecl := ⟨"m", [⟨.named, some "x", some "y", false⟩, ⟨.named, some "v", none, false⟩], false, none⟩
    let second : ImportDecl := ⟨"n", [⟨.named, some "z", none, false⟩], false, none⟩
    ∃ s', ensureAll [⟨"x", "m", some "y"⟩, ⟨"z", "n", none⟩, ⟨"x", "m", some "w"⟩, ⟨"v", "m", some "v"⟩]
        { document := d } = .ok ([true, true, false, true], s') ∧
      (∃ n, s'.document.valueImportsFrom "m" = [(n, first)]) ∧
      s'.document.parts =
        d.parts.take 1 ++ [.statement (Statement.ofImport first), .statement (Statement.ofImport second)] ++
          d.parts.drop 1 := by
  intro d first second
  obtain ⟨answers, s', hensure, hanswers, hvalues, below, hold, hnew⟩ :=
    ensureAll_declarations [⟨"x", "m", some "y"⟩, ⟨"z", "n", none⟩, ⟨"x", "m", some "w"⟩, ⟨"v", "m", some "v"⟩]
      { document := d } (by decide +kernel)
  have habove : d.partsAbove = d.parts.take 1 := by decide +kernel
  have hbelow : below = d.parts.drop 1 := by
    refine List.append_cancel_left (?_ : d.parts.take 1 ++ below = d.parts.take 1 ++ d.parts.drop 1)
    rw [List.take_append_drop, ← habove]
    exact hold.symm
  have hanswers : answers = [true, true, false, true] := hanswers.trans (by decide +kernel)
  refine ⟨s', ?_, hvalues ⟨"x", "m", some "y"⟩ (by simp), ?_⟩
  · rw [hensure, hanswers]
  · rw [hnew, hbelow, ← habove]
    decide +kernel

end Session
end CallRedirect
