import CallRedirect.Proofs.Redirection
import CallRedirect.Proofs.Regrowth
import CallRedirect.Proofs.Supply

/-! # What a run keeps of a file

A run puts new callees into the statements of a file, and then writes at most one import. Everything else in the document
is still a comment or a statement of the file.

* `Document.Kept`: every comment and statement is one of the file, but for one import.
* `Document.Kept.with_statements`: what keeps that up, said of the statements alone.
* `Session.kept_ensure`: ensuring an import keeps it up.
* `Settings.kept_process`: the document after a run. -/

namespace CallRedirect
set_option autoImplicit false

/-- The comment is one of the file. -/
def Comment.Kept (root : Node) (c : Comment) : Prop :=
  ∃ i ∈ Document.items root, i.isComment = true ∧ c.slot = some i.slot

/-- The statement is one of the file, with the patches in it, or the import that was written. -/
structure Statement.Kept (src : Bytes) (root : Node) (ps : List Patch) (decl : ImportDecl) (s : Statement) : Prop where
  comments : ∀ c ∈ s.leading ++ s.trailing, c.Kept root
  verbatim : s.verbatim = true → ∃ i ∈ Document.items root, s.slot = some i.slot ∧
    s.render src = .ok (src.patched ps i.node.start i.node.stop)
  written : s.verbatim = false → s.form = .importing decl

/-- The comments of a statement may be handed to another one. -/
theorem Statement.Kept.with_comments {src : Bytes} {root : Node} {ps : List Patch} {decl : ImportDecl} {s : Statement}
    {leading trailing : List Comment} (hs : s.Kept src root ps decl) (hcomments : ∀ c ∈ leading ++ trailing, c.Kept root) :
    Statement.Kept src root ps decl { s with leading := leading, trailing := trailing } :=
  ⟨hcomments, hs.verbatim, hs.written⟩

namespace Document

/-- The comments and statements are those of the file, with the patches in them; an import may be put in, or stand for one
of the file. -/
structure Kept (src : Bytes) (root : Node) (ps : List Patch) (decl : ImportDecl) (d : Document) : Prop extends
    Framed d where
  source : d.source = src
  tree : d.root = root
  comments : ∀ c ∈ d.comments, c.Kept root
  statements : ∀ s ∈ d.statements, s.Kept src root ps decl
  complete : ∀ i ∈ items root, i.isComment = false → i.node.kind ≠ "import_statement" →
    ∃ s ∈ d.statements, s.isImport = false ∧ s.slot = some i.slot

section Kept
variable {src : Bytes} {root : Node} {ps : List Patch} {decl : ImportDecl} {d : Document}
  (h : d.Kept src root ps decl)
include h

theorem Kept.with_statements {ss : List Statement} (hss : ∀ s ∈ ss, s.Kept src root ps decl)
    (hplain : ∀ s ∈ d.statements, s.isImport = false → ∃ s' ∈ ss, s'.isImport = false ∧ s'.slot = s.slot) :
    Kept src root ps decl { d with statements := ss } := by
  refine ⟨⟨h.bodyStart, h.bodyStop⟩, h.source, h.tree, h.comments, hss, fun i hi hcomment hkind => ?_⟩
  obtain ⟨s, hs, himport, hslot⟩ := h.complete i hi hcomment hkind
  obtain ⟨s', hs', himport', hslot'⟩ := hplain s hs himport
  exact ⟨s', hs', himport', hslot'.trans hslot⟩

theorem Kept.insert (i : Nat) : (d.insert i (Statement.ofImport decl)).Kept src root ps decl := by
  have hnew : (Statement.ofImport decl).Kept src root ps decl := ⟨by simp [Statement.ofImport], nofun, fun _ => rfl⟩
  refine h.with_statements (fun s hs => ?_) fun s hs himport => ⟨s, ?_, himport, rfl⟩
  · rcases List.mem_append.1 hs with hs | hs
    · exact h.statements s (List.mem_of_mem_take hs)
    · rcases List.mem_cons.1 hs with rfl | hs
      · exact hnew
      · exact h.statements s (List.mem_of_mem_drop hs)
  · rw [← List.take_append_drop i d.statements, List.mem_append] at hs
    rw [List.mem_append, List.mem_cons]
    exact hs.imp_right .inr

theorem Kept.insertAtTop : (d.insertAtTop (Statement.ofImport decl)).2.Kept src root ps decl := by
  unfold Document.insertAtTop
  split
  · exact h.insert 0
  · split
    · exact h.insert 0
    · next first rest hcons =>
      split
      · exact h.insert 0
      · have hfirst := h.statements first (hcons ▸ List.mem_cons_self)
        have hnew : Statement.Kept src root ps decl { Statement.ofImport decl with leading := first.leading } :=
          ⟨fun c hc => hfirst.comments c (List.mem_append_left _ (by simpa [Statement.ofImport] using hc)), nofun,
            fun _ => rfl⟩
        split
        · next second rest =>
          have hsecond := h.statements second (hcons ▸ List.mem_cons_of_mem _ List.mem_cons_self)
          have hmoved : ∀ c ∈ (first.trailing ++ second.leading) ++ second.trailing, c.Kept root := by
            intro c hc
            rw [List.append_assoc, List.mem_append] at hc
            exact hc.elim (fun hc => hfirst.comments c (List.mem_append_right _ hc)) (hsecond.comments c)
          refine h.with_statements (List.forall_mem_cons.2 ⟨hnew, List.forall_mem_cons.2
            ⟨hfirst.with_comments (by simp), List.forall_mem_cons.2 ⟨hsecond.with_comments hmoved, fun s hs => ?_⟩⟩⟩) ?_
          · exact h.statements s (hcons ▸ List.mem_cons_of_mem _ (List.mem_cons_of_mem _ hs))
          · intro s hs himport
            rw [hcons, List.mem_cons, List.mem_cons] at hs
            rcases hs with rfl | rfl | hs
            · exact ⟨_, List.mem_cons_of_mem _ List.mem_cons_self, himport, rfl⟩
            · exact ⟨_, List.mem_cons_of_mem _ (List.mem_cons_of_mem _ List.mem_cons_self), himport, rfl⟩
            · exact ⟨s, by simp [hs], himport, rfl⟩
        · have halone : ∀ c ∈ [] ++ first.trailing, c.Kept root :=
            fun c hc => hfirst.comments c (List.mem_append_right _ hc)
          refine h.with_statements (List.forall_mem_cons.2 ⟨hnew, List.forall_mem_cons.2
            ⟨hfirst.with_comments halone, by simp⟩⟩) fun s hs himport => ?_
          rw [hcons, List.mem_singleton] at hs
          exact ⟨_, List.mem_cons_of_mem _ List.mem_cons_self, hs ▸ himport, hs ▸ rfl⟩

/-- An import may stand for one of the file. -/
theorem Kept.modify {i : Nat} {f : Statement → Statement}
    (hf : ∀ s, d.statements[i]? = some s → (f s).Kept src root ps decl)
    (himport : ∀ s, d.statements[i]? = some s → s.isImport = true) : (d.modify i f).Kept src root ps decl := by
  refine h.with_statements (fun s hs => ?_) fun s hs hplain => ⟨s, ?_, hplain, rfl⟩
  · obtain ⟨j, hj⟩ := List.mem_iff_getElem?.1 hs
    rw [List.getElem?_modify] at hj
    obtain ⟨s', hs', rfl⟩ := Option.map_eq_some_iff.1 hj
    by_cases hij : i = j
    · rw [if_pos hij]
      exact hf s' (hij ▸ hs')
    · rw [if_neg hij]
      exact h.statements s' (List.mem_of_getElem? hs')
  · obtain ⟨j, hj⟩ := List.mem_iff_getElem?.1 hs
    have hij : i ≠ j := by
      rintro rfl
      rw [himport s hj] at hplain
      cases hplain
    refine List.mem_iff_getElem?.2 ⟨j, ?_⟩
    rw [List.getElem?_modify_ne _ _ hij, hj]

end Kept

/-- A file in which replacements were recorded is kept, whatever import comes next. -/
theorem kept_recorded {src : Bytes} {root : Node} {on : Nat → List Replacement} {ps : List Patch}
    (hsplice : ∀ (j : Nat) (g : Group), (outline src root).groups[j]? = some g →
      Replacement.splice src (on j) g.item.node.start g.item.node.stop =
        some (src.patched ps g.item.node.start g.item.node.stop)) (decl : ImportDecl) :
    ((ofItems src root).recorded on).Kept src root ps decl := by
  have hcomment {is : List Item} {placement : Placement} (his : ∀ i ∈ is, i ∈ items root ∧ i.isComment = true)
      (c : Comment) (hc : c ∈ is.map (Item.comment src placement)) : c.Kept root := by
    obtain ⟨i, hi, rfl⟩ := List.mem_map.1 hc
    exact ⟨i, (his i hi).1, (his i hi).2, rfl⟩
  rw [Document.recorded, mapStatements, ofItems_eq]
  refine ⟨⟨rfl, rfl⟩, rfl, rfl, hcomment fun i hi => ⟨mem_items_of_header hi, isComment_of_mem_header hi⟩, fun s hs => ?_,
    fun i hi hstatement hkind => ?_⟩
  · obtain ⟨j, hj⟩ := List.mem_iff_getElem?.1 hs
    rw [List.getElem?_mapIdx, List.getElem?_map] at hj
    obtain ⟨s', hs', rfl⟩ := Option.map_eq_some_iff.1 hj
    obtain ⟨g, hg, rfl⟩ := Option.map_eq_some_iff.1 hs'
    have hmem := List.mem_of_getElem? hg
    have hsorted := sorted_outline src root g hmem
    refine ⟨fun c hc => ?_, fun _ => ⟨g.item, ?_, rfl, ?_⟩, fun hwritten => Bool.noConfusion hwritten⟩
    · rcases List.mem_append.1 hc with hc | hc
      · exact hcomment (fun i hi => ⟨mem_items_of_group hmem (List.mem_append_left _ hi), hsorted.leading i hi⟩) c hc
      · exact hcomment (fun i hi => ⟨mem_items_of_group hmem (List.mem_append_right _ (List.mem_cons_of_mem _ hi)),
          hsorted.trailing i hi⟩) c hc
    · exact mem_items_of_group hmem (List.mem_append_right _ List.mem_cons_self)
    · simp [Group.statement, Item.statement, Statement.render, Item.slot, hsplice j g hg]
  · obtain ⟨j, g, hg, rfl⟩ := exists_group_of_item src hi hstatement
    refine ⟨{ g.statement src with replacements := on j }, List.mem_iff_getElem?.2 ⟨j, ?_⟩, ?_, rfl⟩
    · rw [List.getElem?_mapIdx, List.getElem?_map, hg]
      rfl
    · simp [Statement.isImport, Statement.import?, Group.statement, Item.statement, hkind]

end Document

/-! ## Runs -/

namespace Session
variable {src : Bytes} {root : Node} {ps : List Patch} {s s' : Session}

theorem kept_insertImport (r : Request) (h : s.document.Kept src root ps r.declaration) :
    (s.insertImport r).document.Kept src root ps r.declaration := by
  rw [document_insertImport, Request.statement_eq]
  cases hafter : s.document.insertAfterImports? (Statement.ofImport r.declaration) with
  | some d =>
    obtain ⟨p, -, rfl⟩ := Option.map_eq_some_iff.1 hafter
    exact h.insert _
  | none => exact h.insertAtTop

theorem kept_mergeInto (r : Request) {i : Nat} {decl : ImportDecl}
    (h : s.document.Kept src root ps (decl.merge r.specifier)) (hmem : (i, decl) ∈ s.document.valueImportsFrom r.origin) :
    (s.mergeInto r i decl).document.Kept src root ps (decl.merge r.specifier) := by
  obtain ⟨st, hst, hdecl⟩ := Document.mem_imports_iff.1 (Document.mem_valueImportsFrom_iff.1 hmem).1
  refine h.modify (fun st hst => ?_) fun st' hst' => ?_
  · exact ⟨(h.statements st (List.mem_of_getElem? hst)).comments, nofun, fun _ => rfl⟩
  · obtain rfl : st = st' := Option.some.inj (hst.symm.trans hst')
    rw [Statement.isImport, hdecl, Option.isSome_some]

/-- Ensuring an import writes one at most. -/
theorem kept_ensure {r : Request} {changed : Bool} (hkept : ∀ decl, s.document.Kept src root ps decl)
    (h : s.ensure r = .ok (changed, s')) : ∃ decl, s'.document.Kept src root ps decl := by
  rw [ensure_eq] at h
  split at h
  · obtain ⟨-, rfl⟩ := Prod.mk.inj (Except.ok.inj h)
    exact ⟨_, kept_insertImport r (hkept _)⟩
  · next i decl hvalues =>
    have hmem : (i, decl) ∈ s.document.valueImportsFrom r.origin := hvalues ▸ List.mem_singleton_self _
    split at h
    · obtain ⟨-, rfl⟩ := Prod.mk.inj (Except.ok.inj h)
      exact ⟨_, kept_insertImport r (hkept _)⟩
    · split at h
      · obtain ⟨-, rfl⟩ := Prod.mk.inj (Except.ok.inj h)
        exact ⟨decl, hkept decl⟩
      · obtain ⟨-, rfl⟩ := Prod.mk.inj (Except.ok.inj h)
        exact ⟨_, kept_mergeInto r (hkept _) hmem⟩
  · cases h

end Session

namespace Settings
variable {s : Settings} {code : String} {root : Node}

theorem process_of_zero {d : Document} {p : Processed} (h : s.process d = .ok p) (hp : p.redirected = 0) :
    ∃ (n : Nat) (done : Session), (s.opened d).redirect s.target = .ok (n, done) ∧
      p.session.document = done.document := by
  unfold process at h
  dsimp only at h
  split at h
  · cases h
  · next n done hredirect =>
    split at h
    · obtain rfl := Except.ok.inj h
      exact ⟨n, done, hredirect, rfl⟩
    · next hne =>
      unfold importFunction at h
      dsimp only at h
      split at h
      · cases h
      · obtain rfl := Except.ok.inj h
        exact absurd hp hne

section Process
variable (hroot : root.WellFormed code) (hproper : ∀ c ∈ CallSite.all (Bytes.ofString code) s.target root, c.Proper)
include hroot hproper

theorem kept_redirect {n : Nat} {done : Session}
    (h : (s.opened (.ofItems (Bytes.ofString code) root)).redirect s.target = .ok (n, done)) (decl : ImportDecl) :
    done.document.Kept (Bytes.ofString code) root
      ((Session.ambientCalls (.ofItems (Bytes.ofString code) root) s.target).map (CallSite.patch s.target)) decl := by
  have hfresh : ∀ st ∈ (s.opened (.ofItems (Bytes.ofString code) root)).document.statements, st.replacements = [] :=
    Document.fresh_ofItems _ _
  have hwritable : ∀ i, Session.Writable (s.opened (.ofItems (Bytes.ofString code) root)).document.source
      (Session.placedOn (s.opened (.ofItems (Bytes.ofString code) root)).document s.target i) := by
    rw [opened, Document.source_ofItems]
    exact Session.writable_placedOn hroot hproper
  obtain ⟨done', hredirect, hdone⟩ := Session.redirect_eq hfresh hwritable
  obtain rfl : done' = done := (Prod.mk.inj (Except.ok.inj (hredirect.symm.trans h))).2
  rw [hdone]
  exact Document.kept_recorded (fun j g hg => Session.splice_placedOn hroot hproper hg) decl

/-- After a run the file is kept, but for the import of the function. -/
theorem kept_process {p : Processed} (hp : s.process (.ofItems (Bytes.ofString code) root) = .ok p) :
    ∃ decl, p.session.document.Kept (Bytes.ofString code) root
      ((Session.ambientCalls (.ofItems (Bytes.ofString code) root) s.target).map (CallSite.patch s.target)) decl := by
  rcases Nat.eq_zero_or_pos p.redirected with hzero | hpos
  · obtain ⟨n, done, hredirect, hfinal⟩ := process_of_zero hp hzero
    rw [hfinal]
    exact ⟨s.request.declaration, kept_redirect hroot hproper hredirect _⟩
  · obtain ⟨n, done, ready, final, changed, hredirect, hready, hensure, hfinal⟩ := process_eq_ok hp hpos
    rw [hfinal]
    refine Session.kept_ensure (fun decl => ?_) hensure
    rw [hready]
    exact kept_redirect hroot hproper hredirect decl

end Process
end Settings

end CallRedirect
