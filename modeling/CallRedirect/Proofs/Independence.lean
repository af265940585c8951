import CallRedirect.Proofs.Ensuring
import CallRedirect.Proofs.Redirection

/-! # Redirecting and ensuring in either order

Redirecting adds to each statement the replacements of the calls in the part of the file that the statement still prints, so
it is a map over the statements. Ensuring an import looks at the forms and the comments of the statements, moves comments,
puts in a statement that prints nothing of the file, or turns one into such a statement: all of that goes through the map.

* `Statement.marked`, `Document.marked`: replacements by the place in the file where they belong.
* `Session.redirect_eq_marked`: redirecting is such a map.
* `Session.ensure_marked`: ensuring goes through it.
* `Session.redirect_ensure`: the two orders. -/

namespace CallRedirect
set_option autoImplicit false

namespace Statement

/-- Where the text stands in the file that the statement still prints. -/
def start? (s : Statement) : Option Nat := if s.verbatim then s.slot.map Slot.start else none

theorem standsAt_iff {s : Statement} {offset : Nat} : s.standsAt offset = true ↔ s.start? = some offset := by
  unfold standsAt start?
  cases s.verbatim <;> cases s.slot <;> simp

/-- The statement with the replacements that belong to the text it prints, after those it has. -/
def marked (on : Nat → List Replacement) (s : Statement) : Statement :=
  { s with replacements := s.replacements ++ (s.start?.map on).getD [] }

variable {on : Nat → List Replacement}

theorem marked_of_not {s : Statement} (h : s.verbatim = false) : s.marked on = s := by
  have hstart : s.start? = none := by simp [start?, h]
  simp [marked, hstart]

@[simp] theorem leading_marked (s : Statement) : (s.marked on).leading = s.leading := rfl

@[simp] theorem trailing_marked (s : Statement) : (s.marked on).trailing = s.trailing := rfl

@[simp] theorem hasComments_marked (s : Statement) : (s.marked on).hasComments = s.hasComments := rfl

theorem marked_with_comments (s : Statement) (leading trailing : List Comment) :
    marked on { s with leading := leading, trailing := trailing } =
      { s.marked on with leading := leading, trailing := trailing } := rfl

theorem merge_marked (s : Statement) (decl : ImportDecl) (spec : Specifier) :
    (s.marked on).merge decl spec = (s.merge decl spec).marked on := by
  rw [marked_of_not (s := s.merge decl spec) rfl]
  rfl

end Statement

namespace Document

/-- The document with the replacements that belong to the text that each statement prints. -/
def marked (on : Nat → List Replacement) (d : Document) : Document :=
  { d with statements := d.statements.map (Statement.marked on) }

/-- No two statements print the text at one place. -/
def Apart (d : Document) : Prop := (d.statements.filterMap Statement.start?).Nodup

section Marked
variable (on : Nat → List Replacement) (d : Document)

theorem imports_marked : (d.marked on).imports = d.imports := by
  apply imports_congr
  rw [marked, List.map_map]
  rfl

theorem valueImportsFrom_marked (origin : String) : (d.marked on).valueImportsFrom origin = d.valueImportsFrom origin := by
  rw [valueImportsFrom, importsFrom, imports_marked, valueImportsFrom, importsFrom]

theorem lineOf?_marked (i : Nat) : (d.marked on).lineOf? i = d.lineOf? i := by
  rw [lineOf?, marked, List.getElem?_map, lineOf?]
  cases d.statements[i]? <;> rfl

theorem insert_marked (i : Nat) {s : Statement} (hs : s.verbatim = false) :
    (d.marked on).insert i s = (d.insert i s).marked on := by
  simp [marked, insert, Statement.marked_of_not hs, List.map_take, List.map_drop]

theorem insertAfterImports?_marked {s : Statement} (hs : s.verbatim = false) :
    (d.marked on).insertAfterImports? s = (d.insertAfterImports? s).map (marked on) := by
  rw [insertAfterImports?, imports_marked, insertAfterImports?, Option.map_map]
  congr 1
  funext p
  exact insert_marked on d _ hs

theorem insertAtTop_marked {s : Statement} (hs : s.verbatim = false) :
    ((d.marked on).insertAtTop s).2 = (d.insertAtTop s).2.marked on := by
  have hnew : s.marked on = s := Statement.marked_of_not hs
  unfold insertAtTop
  by_cases hcomments : d.comments = []
  · cases hstatements : d.statements with
    | nil => simp [marked, insert, hcomments, hstatements, hnew]
    | cons first rest =>
      cases hfirst : first.hasComments with
      | false => simp [marked, insert, hcomments, hstatements, hfirst, hnew]
      | true => cases rest <;> simp [marked, hcomments, hstatements, hfirst, hnew, Statement.marked_with_comments]
  · simp [marked, insert, hcomments, hnew]

theorem modify_merge_marked (i : Nat) (decl : ImportDecl) (spec : Specifier) :
    ((d.marked on).modify i fun s => s.merge decl spec) = (d.modify i fun s => s.merge decl spec).marked on := by
  have hstatements : (d.statements.map (Statement.marked on)).modify i (fun s => s.merge decl spec) =
      (d.statements.modify i fun s => s.merge decl spec).map (Statement.marked on) := by
    apply List.ext_getElem?
    intro k
    rw [List.getElem?_modify, List.getElem?_map, List.getElem?_map, List.getElem?_modify]
    by_cases hik : i = k <;> cases d.statements[k]? <;> simp [hik, Statement.merge_marked]
  rw [modify, marked, hstatements, modify, marked]

end Marked

/-! ## Ensuring, on documents -/

/-- The document with a declaration for the request put in. -/
def withImport (r : Request) (d : Document) : Document :=
  (d.insertAfterImports? r.statement).getD (d.insertAtTop r.statement).2

/-- What ensuring an import makes of a document, and whether it changed. -/
def ensured (r : Request) (d : Document) : Except Failure (Bool × Document) :=
  match d.valueImportsFrom r.origin with
  | [] => .ok (true, d.withImport r)
  | [(i, decl)] =>
    if decl.isStarForm then .ok (true, d.withImport r)
    else if decl.imports r.name then .ok (false, d)
    else .ok (true, d.modify i fun s => s.merge decl r.specifier)
  | values => .error (.rivalImports r.origin values.length (values.filterMap fun p => d.lineOf? p.1))

theorem withImport_marked (on : Nat → List Replacement) (r : Request) (d : Document) :
    (d.marked on).withImport r = (d.withImport r).marked on := by
  rw [withImport, insertAfterImports?_marked on d rfl, insertAtTop_marked on d rfl, withImport]
  cases d.insertAfterImports? r.statement <;> rfl

theorem ensured_marked (on : Nat → List Replacement) (r : Request) (d : Document) :
    (d.marked on).ensured r = (d.ensured r).map fun p => (p.1, p.2.marked on) := by
  rw [ensured, valueImportsFrom_marked, ensured]
  split
  · rw [withImport_marked]
    rfl
  · split
    · rw [withImport_marked]
      rfl
    · split
      · rfl
      · rw [modify_merge_marked]
        rfl
  · simp only [lineOf?_marked]
    rfl

/-- Nothing of the file is printed that was not printed before, and no replacement is recorded. -/
structure Within (d d' : Document) : Prop where
  source : d'.source = d.source
  tree : d'.root = d.root
  starts : (d'.statements.filterMap Statement.start?).Sublist (d.statements.filterMap Statement.start?)
  fresh : (∀ s ∈ d.statements, s.replacements = []) → ∀ s ∈ d'.statements, s.replacements = []

theorem within_insert (d : Document) (i : Nat) (decl : ImportDecl) : d.Within (d.insert i (Statement.ofImport decl)) := by
  refine ⟨rfl, rfl, ?_, fun h s hs => ?_⟩
  · rw [insert, List.filterMap_append, List.filterMap_cons_none (by rfl), ← List.filterMap_append, List.take_append_drop]
  · rcases List.mem_append.1 hs with hs | hs
    · exact h s (List.mem_of_mem_take hs)
    · rcases List.mem_cons.1 hs with rfl | hs
      · rfl
      · exact h s (List.mem_of_mem_drop hs)

/-- Where a statement goes that is put at the top: above all others, or between the first one and its comments. -/
theorem insertAtTop_cases (d : Document) (s : Statement) :
    (d.insertAtTop s).2 = d.insert 0 s ∨
      d.comments = [] ∧
        ((∃ first second rest, d.statements = first :: second :: rest ∧ (d.insertAtTop s).2 =
            { d with
              statements :=
                { s with leading := first.leading } ::
                { first with leading := [], trailing := [] } ::
                { second with leading := first.trailing ++ second.leading } :: rest }) ∨
          ∃ first, d.statements = [first] ∧ (d.insertAtTop s).2 =
            { d with statements := [{ s with leading := first.leading }, { first with leading := [] }] }) := by
  unfold insertAtTop
  split
  · exact .inl rfl
  · next hcomments =>
    split
    · exact .inl rfl
    · next first rest hcons =>
      split
      · exact .inl rfl
      · refine .inr ⟨by simpa using hcomments, ?_⟩
        split
        · exact .inl ⟨first, _, _, hcons, rfl⟩
        · exact .inr ⟨first, hcons, rfl⟩

theorem within_insertAtTop (d : Document) (decl : ImportDecl) :
    d.Within (d.insertAtTop (Statement.ofImport decl)).2 := by
  rcases d.insertAtTop_cases (Statement.ofImport decl) with
    htop | ⟨-, ⟨first, second, rest, hstatements, htop⟩ | ⟨first, hstatements, htop⟩⟩
  · rw [htop]
    exact d.within_insert 0 decl
  · rw [htop]
    refine ⟨rfl, rfl, ?_, fun h => ?_⟩
    · simp [hstatements, Statement.start?, Statement.ofImport, List.filterMap_cons]
    · simpa [hstatements, Statement.ofImport] using h
  · rw [htop]
    refine ⟨rfl, rfl, ?_, fun h => ?_⟩
    · simp [hstatements, Statement.start?, Statement.ofImport, List.filterMap_cons]
    · simpa [hstatements, Statement.ofImport] using h

theorem within_withImport (r : Request) (d : Document) : d.Within (d.withImport r) := by
  rw [withImport, Request.statement_eq]
  cases hafter : d.insertAfterImports? (Statement.ofImport r.declaration) with
  | some d' =>
    obtain ⟨p, -, rfl⟩ := Option.map_eq_some_iff.1 hafter
    exact d.within_insert _ _
  | none => exact d.within_insertAtTop _

theorem starts_merge (ss : List Statement) (i : Nat) (decl : ImportDecl) (spec : Specifier) :
    ((ss.modify i fun s => s.merge decl spec).filterMap Statement.start?).Sublist (ss.filterMap Statement.start?) := by
  induction ss generalizing i with
  | nil => simp
  | cons s ss ih =>
    cases i with
    | zero =>
      rw [List.modify_zero_cons, List.filterMap_cons_none (by rfl)]
      exact (List.sublist_cons_self s ss).filterMap _
    | succ i =>
      rw [List.modify_succ_cons]
      cases hs : s.start? with
      | none =>
        rw [List.filterMap_cons_none hs, List.filterMap_cons_none hs]
        exact ih i
      | some p =>
        rw [List.filterMap_cons_some hs, List.filterMap_cons_some hs]
        exact (ih i).cons_cons p

theorem within_merge (d : Document) (i : Nat) (decl : ImportDecl) (spec : Specifier) :
    d.Within (d.modify i fun s => s.merge decl spec) := by
  refine ⟨rfl, rfl, starts_merge d.statements i decl spec, fun h s hs => ?_⟩
  obtain ⟨j, hj⟩ := List.mem_iff_getElem?.1 hs
  rw [modify, List.getElem?_modify] at hj
  obtain ⟨s', hs', rfl⟩ := Option.map_eq_some_iff.1 hj
  by_cases hij : i = j
  · rw [if_pos hij]
    rfl
  · rw [if_neg hij]
    exact h s' (List.mem_of_getElem? hs')

theorem within_ensured {r : Request} {d d' : Document} {changed : Bool} (h : d.ensured r = .ok (changed, d')) :
    d.Within d' := by
  unfold ensured at h
  split at h
  · obtain ⟨-, rfl⟩ := Prod.mk.inj (Except.ok.inj h)
    exact d.within_withImport r
  · split at h
    · obtain ⟨-, rfl⟩ := Prod.mk.inj (Except.ok.inj h)
      exact d.within_withImport r
    · split at h
      · obtain ⟨-, rfl⟩ := Prod.mk.inj (Except.ok.inj h)
        exact ⟨rfl, rfl, .refl _, fun h => h⟩
      · obtain ⟨-, rfl⟩ := Prod.mk.inj (Except.ok.inj h)
        exact d.within_merge _ _ _
  · cases h

theorem apart_ofItems {code : String} {root : Node} (hroot : root.WellFormed code) (src : Bytes) :
    (ofItems src root).Apart := by
  have hstarts : (ofItems src root).statements.filterMap Statement.start? =
      (outline src root).groups.map fun g => g.item.node.start := by
    rw [statements_ofItems, List.filterMap_map]
    exact congrFun List.filterMap_eq_map _
  rw [Apart, hstarts, List.Nodup, List.pairwise_map]
  refine (pairwise_groups hroot src).imp fun {g g'} h => ?_
  omega

end Document

namespace Session

/-! ## Redirecting -/

/-- The replacements of the ambient calls in the part of the file that starts at an offset. -/
def placedAt (d : Document) (t : Target) (offset : Nat) : List Replacement :=
  ((ambientCalls d t).filter fun c => c.call.top.start == offset).map (CallSite.replacement t)

theorem statementAt?_eq_some_iff {d : Document} (hapart : d.Apart) {i : Nat} {st : Statement}
    (hst : d.statements[i]? = some st) (offset : Nat) : d.statementAt? offset = some i ↔ st.start? = some offset := by
  obtain ⟨hi, rfl⟩ := List.getElem?_eq_some_iff.1 hst
  rw [Document.statementAt?, List.findIdx?_eq_some_iff_getElem]
  constructor
  · rintro ⟨_, hstands, -⟩
    exact Statement.standsAt_iff.1 hstands
  · intro hstart
    refine ⟨hi, Statement.standsAt_iff.2 hstart, fun k hk => ?_⟩
    intro hstands
    have hpairwise := List.pairwise_filterMap.1 hapart
    have hne := List.pairwise_iff_getElem.1 hpairwise k i (by omega) hi hk
    exact hne offset (Statement.standsAt_iff.1 hstands) offset hstart rfl

theorem placedOn_eq_placedAt {d : Document} (hapart : d.Apart) (t : Target) {i : Nat} {st : Statement}
    (hst : d.statements[i]? = some st) : placedOn d t i = (st.start?.map (placedAt d t)).getD [] := by
  have hat (c : CallSite) : (d.statementAt? c.call.top.start == some i) = (some c.call.top.start == st.start?) := by
    rw [Bool.eq_iff_iff, beq_iff_eq, beq_iff_eq, statementAt?_eq_some_iff hapart hst, eq_comm]
  rw [placedOn_eq]
  simp only [hat]
  cases st.start? with
  | none => simp
  | some p => simp [placedAt]

/-- Redirecting adds to each statement the replacements of the calls in the text that it prints. -/
theorem redirect_eq_marked {t : Target} {s s' : Session} {n : Nat} (hapart : s.document.Apart)
    (h : s.redirect t = .ok (n, s')) : s'.document = s.document.marked (placedAt s.document t) := by
  rw [(redirect_eq_ok h).2, Document.mapStatements, Document.marked]
  congr 1
  apply List.ext_getElem?
  intro i
  rw [List.getElem?_mapIdx, List.getElem?_map]
  refine Option.map_congr fun st hst => ?_
  rw [Statement.marked, placedOn_eq_placedAt hapart t hst]

/-! ## Both -/

theorem map_ensure (r : Request) (s : Session) :
    (s.ensure r).map (fun p => (p.1, p.2.document)) = s.document.ensured r := by
  have hinsert : (s.insertImport r).document = s.document.withImport r := document_insertImport s r
  rw [ensure_eq, Document.ensured]
  cases s.document.valueImportsFrom r.origin with
  | nil => simp only [Except.map, hinsert]
  | cons p rest =>
    cases rest with
    | cons q rest => rfl
    | nil =>
      by_cases hstar : p.2.isStarForm = true
      · simp only [hstar, if_true, Except.map, hinsert]
      · by_cases hname : p.2.imports r.name = true
        · simp only [hstar, hname, if_true, Except.map]
          rfl
        · simp only [hstar, hname, Except.map]
          rfl

theorem ensure_eq_error {r : Request} {s : Session} {e : Failure} (h : s.ensure r = .error e) :
    1 < (s.document.valueImportsFrom r.origin).length ∧
      ∃ lines, e = .rivalImports r.origin (s.document.valueImportsFrom r.origin).length lines := by
  rw [ensure_eq] at h
  split at h
  · cases h
  · split at h
    · cases h
    · split at h <;> cases h
  · next hnone hone =>
    refine ⟨?_, _, (Except.error.inj h).symm⟩
    rcases hvalues : s.document.valueImportsFrom r.origin with _ | ⟨p, _ | ⟨q, rest⟩⟩
    · exact absurd hvalues hnone
    · exact absurd hvalues (hone p.1 p.2)
    · simp

/-- In a document that is at most as large as the file, redirecting succeeds. -/
theorem redirect_of_width {code : String} {root : Node} {t : Target} {s : Session} (hroot : root.WellFormed code)
    (hwidth : ∀ c ∈ CallSite.all (Bytes.ofString code) t root, c.callee.start < c.callee.stop)
    (hwithin : (Document.ofItems (Bytes.ofString code) root).Within s.document) :
    ∃ n s', s.redirect t = .ok (n, s') ∧
      s'.document = s.document.marked (placedAt (.ofItems (Bytes.ofString code) root) t) := by
  have hsource := hwithin.source.trans (Document.source_ofItems _ _)
  have htree := hwithin.tree.trans (Document.root_ofItems _ _)
  have hfresh := hwithin.fresh (Document.fresh_ofItems _ _)
  obtain ⟨s', hs', -⟩ := redirect_eq (t := t) hfresh (by
    rw [hsource]
    exact writable_placedOn_of_tree hroot hwidth hsource htree)
  have hapart : s.document.Apart := (Document.apart_ofItems hroot _).sublist hwithin.starts
  have hplaced : placedAt s.document t = placedAt (.ofItems (Bytes.ofString code) root) t := by
    funext offset
    rw [placedAt, placedAt, ambientCalls, ambientCalls, hwithin.source, hwithin.tree]
  exact ⟨_, s', hs', hplaced ▸ redirect_eq_marked hapart hs'⟩

theorem redirect_within {code : String} {root : Node} {t : Target} {s : Session} (hroot : root.WellFormed code)
    (hproper : ∀ c ∈ CallSite.all (Bytes.ofString code) t root, c.Proper)
    (hwithin : (Document.ofItems (Bytes.ofString code) root).Within s.document) :
    ∃ n s', s.redirect t = .ok (n, s') ∧
      s'.document = s.document.marked (placedAt (.ofItems (Bytes.ofString code) root) t) :=
  redirect_of_width hroot (fun c hc => (hproper c hc).nonempty) hwithin

/-- Redirecting and then ensuring an import fails if and only if ensuring fails, and then with the same rivals. If ensuring
succeeds, so do both orders; they say the same of the import and leave the same document, which prints as the same text. -/
theorem redirect_ensure (dialect : Dialect) (code : String) (root : Node) (t : Target) (r : Request)
    (hfault : root.firstFaulty? = none) (hroot : root.WellFormed code)
    (hproper : ∀ c ∈ CallSite.all (Bytes.ofString code) t root, c.Proper) :
    ∃ d, Document.ofTree dialect (Bytes.ofString code) root = .ok d ∧ ∀ s : Session, s.document = d →
      ∃ n s₁, s.redirect t = .ok (n, s₁) ∧
        ((1 < (d.valueImportsFrom r.origin).length ∧ ∃ lines,
            s₁.ensure r = .error (.rivalImports r.origin (d.valueImportsFrom r.origin).length lines) ∧
            s.ensure r = .error (.rivalImports r.origin (d.valueImportsFrom r.origin).length lines)) ∨
          ∃ changed s₁' s₂ n' s₂', s₁.ensure r = .ok (changed, s₁') ∧ s.ensure r = .ok (changed, s₂) ∧
            s₂.redirect t = .ok (n', s₂') ∧ s₁'.document = s₂'.document ∧
            s₁'.document.render = s₂'.document.render) := by
  refine ⟨_, Document.ofTree_eq_ok hfault, fun s hs => ?_⟩
  have hself : (Document.ofItems (Bytes.ofString code) root).Within s.document := hs ▸ ⟨rfl, rfl, .refl _, fun h => h⟩
  obtain ⟨n, s₁, hs₁, hdocument₁⟩ := redirect_within hroot hproper hself
  refine ⟨n, s₁, hs₁, ?_⟩
  have hensure := map_ensure r s
  have hensure₁ := map_ensure r s₁
  rw [hdocument₁, Document.ensured_marked, ← hensure] at hensure₁
  cases hs₂ : s.ensure r with
  | error e =>
    rw [hs₂] at hensure₁
    have hs₁' : s₁.ensure r = .error e := by
      cases hs₁' : s₁.ensure r with
      | error e' =>
        rw [hs₁'] at hensure₁
        rw [Except.error.inj hensure₁]
      | ok q =>
        rw [hs₁'] at hensure₁
        cases hensure₁
    obtain ⟨hrivals, lines, rfl⟩ := ensure_eq_error hs₂
    rw [hs] at hrivals hs₁'
    exact .inl ⟨hrivals, lines, hs₁', by rw [hs]⟩
  | ok p =>
    obtain ⟨changed, s₂⟩ := p
    rw [hs₂] at hensure hensure₁
    cases hs₁' : s₁.ensure r with
    | error e =>
      rw [hs₁'] at hensure₁
      cases hensure₁
    | ok q =>
      obtain ⟨changed', s₁'⟩ := q
      rw [hs₁'] at hensure₁
      obtain ⟨rfl, hdocument₁'⟩ := Prod.mk.inj (Except.ok.inj hensure₁)
      have hwithin : (Document.ofItems (Bytes.ofString code) root).Within s₂.document :=
        hs ▸ Document.within_ensured hensure.symm
      obtain ⟨n', s₂', hs₂', hdocument₂⟩ := redirect_within hroot hproper hwithin
      have hsame : s₁'.document = s₂'.document := hdocument₁'.trans hdocument₂.symm
      exact .inr ⟨_, s₁', s₂, n', s₂', rfl, rfl, hs₂', hsame, congrArg Document.render hsame⟩

/-- The tree of `console.error(1); // b`, then `console.error(2);`. -/
def trailedCalls : Node :=
  ⟨"program", true, false, 0, 41, none,
    [⟨"expression_statement", true, false, 0, 17, none,
      [consoleCall 0 16 [⟨"number", true, false, 14, 15, none, []⟩]]⟩,
      ⟨"comment", true, false, 18, 22, none, []⟩,
      ⟨"expression_statement", true, false, 23, 40, none,
        [consoleCall 23 39 [⟨"number", true, false, 37, 38, none, []⟩]]⟩]⟩

/-- The new import moves the comment to the second statement, before or after both statements get their new callees. -/
theorem redirect_ensure_trailed :
    ∃ s s₁ s₁' s₂ s₂' : Session,
      Document.ofTree .js (Bytes.ofString "console.error(1); // b\nconsole.error(2);\n") trailedCalls = .ok s.document ∧
      s.redirect ⟨"console", "error", "logError"⟩ = .ok (2, s₁) ∧
      s₁.ensure ⟨"logError", "m", none⟩ = .ok (true, s₁') ∧
      s.ensure ⟨"logError", "m", none⟩ = .ok (true, s₂) ∧
      (∃ n, s₂.redirect ⟨"console", "error", "logError"⟩ = .ok (n, s₂')) ∧ s₁'.document = s₂'.document ∧
      s₁'.document.render = .ok "import \x7b logError \x7d from \"m\";\nlogError(1);\n// b\nlogError(2);\n" := by
  obtain ⟨d, hd, h⟩ := redirect_ensure .js "console.error(1); // b\nconsole.error(2);\n" trailedCalls
    ⟨"console", "error", "logError"⟩ ⟨"logError", "m", none⟩ (by decide +kernel) (by decide +kernel) (by decide +kernel)
  have hrun : ((Document.ofTree .js (Bytes.ofString "console.error(1); // b\nconsole.error(2);\n")
      trailedCalls).toOption.bind fun d => (redirect ⟨"console", "error", "logError"⟩ ⟨d, {}, []⟩).toOption.bind fun p =>
        (ensure ⟨"logError", "m", none⟩ p.2).toOption.map fun q => (p.1, q.1, q.2.document.render.toOption)) =
      some (2, true, some "import \x7b logError \x7d from \"m\";\nlogError(1);\n// b\nlogError(2);\n") := by
    decide +kernel
  obtain ⟨n, s₁, hs₁, hboth⟩ := h ⟨d, {}, []⟩ rfl
  rw [hd] at hrun
  simp only [Except.toOption, Option.bind_some, hs₁] at hrun
  obtain ⟨-, lines, hfails, -⟩ | ⟨changed, s₁', s₂, n', s₂', hs₁', hs₂, hs₂', hsame, -⟩ := hboth
  · rw [hfails] at hrun
    cases hrun
  · rw [hs₁'] at hrun
    simp only [Option.map_some, Option.some.injEq, Prod.mk.injEq] at hrun
    obtain ⟨rfl, rfl, hrender⟩ := hrun
    refine ⟨⟨d, {}, []⟩, s₁, s₁', s₂, s₂', hd, hs₁, hs₁', hs₂, ⟨n', hs₂'⟩, hsame, ?_⟩
    cases htext : s₁'.document.render with
    | error e =>
      rw [htext] at hrender
      cases hrender
    | ok text =>
      rw [htext] at hrender
      rw [Option.some.inj hrender]

end Session
end CallRedirect
