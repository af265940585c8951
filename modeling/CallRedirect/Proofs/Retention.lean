import CallRedirect.Proofs.Places
import CallRedirect.Proofs.Runs

/-! # What becomes of comments

A run cuts the callees of the calls it redirects out of a file, and the import that gets one more entry, and puts other
texts in their places. A comment in one of these spans is lost. Every other comment stands in the new text, once and as it
was.

* `Document.mergedImport?`: the import that gets one more entry.
* `Document.Rewritten.comment`: a comment is cut out, or no cut reaches into it.
* `Settings.run_comments`: all comments of a file after a run.
* `Settings.run_drops_comments`: some are lost. -/

namespace CallRedirect
set_option autoImplicit false

namespace Document

/-! ## Comments -/

/-- The import of a file that a request adds an entry to, with the text it gets. -/
def mergedImport? (src : Bytes) (root : Node) (r : Request) : Option Patch :=
  match valueImports src root r.origin with
  | [(i, decl)] =>
    if decl.isStarForm || decl.imports r.name then none
    else some ⟨i.node.start, i.node.stop, Bytes.ofString (decl.merge r.specifier).print⟩
  | _ => none

theorem exists_importStatement {src : Bytes} {root : Node} {r : Request} {q : Patch} (h : q ∈ mergedImport? src root r) :
    ∃ n ∈ root.children, n.kind = "import_statement" ∧ q.start = n.start ∧ q.stop = n.stop := by
  unfold mergedImport? at h
  split at h
  · next i decl hvalues =>
    have hmem : (i, decl) ∈ valueImports src root r.origin := hvalues ▸ List.mem_singleton_self _
    obtain ⟨j, hj, hdecl⟩ := List.mem_filterMap.1 hmem
    obtain ⟨decl', hvalue, hpair⟩ := Option.map_eq_some_iff.1 hdecl
    obtain rfl : j = i := (Prod.mk.inj hpair).1
    have hkind : j.node.kind = "import_statement" := by
      by_contra hkind
      rw [Item.valueImport?, Item.import?, if_neg (by simpa using hkind)] at hvalue
      cases hvalue
    split at h
    · cases h
    · obtain rfl := Option.some.inj h
      exact ⟨j.node, mem_children_of_mem_items hj, hkind, rfl, rfl⟩
  · cases h

theorem exists_mergedImport {src : Bytes} {root : Node} {r : Request} {q : Patch} (h : q ∈ mergedImport? src root r) :
    ∃ n ∈ root.children, q.start = n.start ∧ q.stop = n.stop := by
  obtain ⟨n, hn, -, hspan⟩ := exists_importStatement h
  exact ⟨n, hn, hspan⟩

end Document

theorem Node.WellFormed.exists_child {code : String} {root n : Node} (h : root.WellFormed code) (hn : n ∈ root.nodes)
    (hcomment : n.isComment = true) : ∃ m ∈ root.children, n ∈ m.nodes := by
  refine (mem_nodes_iff.1 hn).resolve_left ?_
  rintro rfl
  rw [isComment, Document.Item.isComment, h.program] at hcomment
  exact absurd hcomment (by decide)

/-- A comment is in the callee of a call, or stands apart from it. -/
theorem CallSite.holds_or_apart {code : String} {root : Node} {src : Bytes} {t : Target} (hroot : root.WellFormed code)
    {c : CallSite} (hc : c ∈ all src t root) {n : Node} (hn : n ∈ root.nodes) (hcomment : n.isComment = true) :
    (c.patch t).Holds n ∨ (c.patch t).stop ≤ n.start ∨ n.stop ≤ (c.patch t).start := by
  obtain ⟨hsite, hshape⟩ := mem_all_iff.1 hc
  have hcall := Node.node_mem_nodes hsite
  have hcallee := callee_mem_children hshape
  have hleaf := hroot.comments n hn hcomment
  have hne : n ≠ c.call.node := by
    rintro rfl
    rw [hleaf] at hcallee
    exact absurd hcallee List.not_mem_nil
  have hspan := callee_span hroot.nested hc
  rcases hroot.nested.mem_or_apart hn hcall with hbelow | habove | hbefore | hbehind
  · -- below the call, and so in one of its children
    obtain ⟨k, hk, hnk⟩ := (Node.mem_nodes_iff.1 hbelow).resolve_left hne
    have hnested := nested_call hroot.nested hsite
    have hnk := hnested.span_in_child hk hnk
    have hkspan := hnested.child_span hk
    show (c.call.node.start ≤ n.start ∧ n.stop ≤ c.callee.stop) ∨ c.callee.stop ≤ n.start ∨ n.stop ≤ c.call.node.start
    rcases (hnested _ (Node.self_mem_nodes _)).eq_or_apart hk hcallee with rfl | hbefore | hbehind
    · exact .inl ⟨by omega, hnk.2.2⟩
    · have := (hnested.child_span hcallee).2.1
      exact .inl ⟨by omega, by omega⟩
    · exact .inr (.inl (by omega))
  · rw [Node.mem_nodes_iff, hleaf] at habove
    rcases habove with heq | ⟨k, hk, -⟩
    · exact absurd heq.symm hne
    · exact absurd hk List.not_mem_nil
  · exact .inr (.inr hbefore)
  · exact .inr (.inl (Nat.le_trans hspan.2 hbehind))

namespace Document

/-- A comment in a callee or in the import that is written anew is cut out. No cut reaches into any other one. -/
theorem Rewritten.comment {code : String} {root : Node} {src text : Bytes} {t : Target} {calls : List CallSite}
    {merged : Option Patch} {cuts : List Patch} (h : Rewritten src root (calls.map (CallSite.patch t)) merged text cuts)
    (hroot : root.WellFormed code) (hcalls : ∀ c ∈ calls, c ∈ CallSite.all src t root)
    (hmerged : ∀ q ∈ merged, ∃ n ∈ root.children, q.start = n.start ∧ q.stop = n.stop) {n : Node} (hn : n ∈ root.nodes)
    (hcomment : n.isComment = true) :
    (∃ p ∈ calls.map (CallSite.patch t) ++ merged.toList, p ∈ cuts ∧ p.Holds n) ∨
      (∀ p ∈ calls.map (CallSite.patch t) ++ merged.toList, ¬ p.Holds n) ∧
        ∀ p ∈ cuts, p.stop ≤ n.start ∨ n.stop ≤ p.start := by
  by_cases hheld : ∃ p ∈ calls.map (CallSite.patch t) ++ merged.toList, p.Holds n
  · obtain ⟨p, hp, hholds⟩ := hheld
    left
    rcases List.mem_append.1 hp with hcall | hmerge
    · rcases h.patches p hcall with hcut | ⟨q, hq, hstart, hstop⟩
      · exact ⟨p, hp, hcut, hholds⟩
      · exact ⟨q, List.mem_append_right _ (Option.mem_toList.2 hq), h.anew q hq, Nat.le_trans hstart hholds.1,
          Nat.le_trans hholds.2 hstop⟩
    · exact ⟨p, hp, h.anew p (Option.mem_toList.1 hmerge), hholds⟩
  · push Not at hheld
    refine .inr ⟨hheld, fun p hp => ?_⟩
    obtain ⟨m, hm, hnm⟩ := hroot.exists_child hn hcomment
    have hspan := hroot.nested.span_in_child hm hnm
    rcases h.only p hp with hcall | hmerge | ⟨hapart, -⟩
    · obtain ⟨c, hc, rfl⟩ := List.mem_map.1 hcall
      exact (CallSite.holds_or_apart hroot (hcalls c hc) hn hcomment).resolve_left
        (hheld _ (List.mem_append_left _ hcall))
    · have hnot := hheld p (List.mem_append_right _ (Option.mem_toList.2 hmerge))
      obtain ⟨k, hk, hstart, hstop⟩ := hmerged p hmerge
      rcases (hroot.nested root root.self_mem_nodes).eq_or_apart hm hk with rfl | hbefore | hbehind
      · exact absurd ⟨by omega, by omega⟩ hnot
      · exact .inr (by omega)
      · exact .inl (by omega)
    · have := hapart m hm
      omega

end Document

/-! ## Runs -/

namespace Session
variable {src : Bytes} {root : Node} {ps : List Patch} {r : Request} {s s' : Session}

theorem arranged_insertImport (hplaces : s.document.places = (Document.items root).map Document.Item.place) :
    Document.Arranged root r.declaration (Bytes.ofString r.declaration.print) none (s.insertImport r).document.places := by
  obtain ⟨above, below, hold, hnew⟩ := s.document.places_withImport r
  obtain ⟨above, below, hitems, rfl, rfl⟩ := List.map_eq_append_iff.1 (hplaces.symm.trans hold)
  rw [document_insertImport s r, ← Document.withImport, hnew]
  exact .inserted hitems rfl

theorem arranged_mergeInto {j : Nat} {st : Statement} {i : Document.Item} {decl : ImportDecl} (text : Bytes)
    (hplaces : s.document.places = (Document.items root).map Document.Item.place)
    (hst : s.document.statements[j]? = some st) (hslot : st.slot = some i.slot) :
    Document.Arranged root (decl.merge r.specifier) text
      (some ⟨i.node.start, i.node.stop, Bytes.ofString (decl.merge r.specifier).print⟩)
      (s.mergeInto r j decl).document.places := by
  obtain ⟨above, below, hold, hnew⟩ := Document.places_merge hst decl r.specifier
  obtain ⟨above, rest, hitems, rfl, hrest⟩ := List.map_eq_append_iff.1 (hplaces.symm.trans hold)
  obtain ⟨i', below, rfl, hi, rfl⟩ := List.map_eq_cons_iff.1 hrest
  have hsame : i'.slot = i.slot := Option.some.inj ((congrArg Place.slot hi).trans hslot)
  have hstart : i'.node.start = i.node.start := congrArg Slot.start hsame
  have hstop : i'.node.stop = i.node.stop := congrArg Slot.stop hsame
  show Document.Arranged root _ _ _ (s.document.modify j fun st => st.merge decl r.specifier).places
  rw [hnew, hslot, ← hsame, ← hstart, ← hstop]
  exact .merged hitems

/-- Ensuring an import leaves the items of the file in their places. -/
theorem arranged_ensure {on : Nat → List Replacement} {changed : Bool}
    (hs : s.document = (Document.ofItems src root).marked on) (hkept : ∀ decl, s.document.Kept src root ps decl)
    (h : s.ensure r = .ok (changed, s')) :
    ∃ decl, s'.document.Kept src root ps decl ∧
      Document.Arranged root decl (Bytes.ofString r.declaration.print) (Document.mergedImport? src root r)
        s'.document.places := by
  have hplaces : s.document.places = (Document.items root).map Document.Item.place := by
    rw [hs, Document.places_marked, Document.places_ofItems]
  have hinserted : ∃ decl, (s.insertImport r).document.Kept src root ps decl ∧
      Document.Arranged root decl (Bytes.ofString r.declaration.print) none (s.insertImport r).document.places :=
    ⟨r.declaration, kept_insertImport r (hkept _), arranged_insertImport hplaces⟩
  have hvalues : s.document.valueImportsFrom r.origin =
      (Document.valueGroups src root r.origin).map fun p => (p.1.2, p.2) := by
    rw [hs, Document.valueImportsFrom_marked, Document.valueImportsFrom_ofItems]
  have hgroups : ∀ p ∈ Document.valueGroups src root r.origin, (Document.outline src root).groups[p.1.2]? = some p.1.1 :=
    fun p hp => Document.mem_valueGroups hp
  rw [ensure_eq, hvalues] at h
  rw [Document.mergedImport?, Document.valueImports_eq]
  generalize Document.valueGroups src root r.origin = values at h hvalues hgroups ⊢
  match values with
  | [] =>
    obtain ⟨-, rfl⟩ := Prod.mk.inj (Except.ok.inj h)
    exact hinserted
  | [((g, j), decl)] =>
    simp only [List.map_cons, List.map_nil] at h hvalues ⊢
    cases hstar : decl.isStarForm with
    | true =>
      rw [hstar] at h
      obtain ⟨-, rfl⟩ := Prod.mk.inj (Except.ok.inj h)
      exact hinserted
    | false =>
      cases himports : decl.imports r.name with
      | true =>
        rw [hstar, himports] at h
        obtain ⟨-, rfl⟩ := Prod.mk.inj (Except.ok.inj h)
        exact ⟨decl, hkept decl, hplaces ▸ .same⟩
      | false =>
        rw [hstar, himports] at h
        obtain ⟨-, rfl⟩ := Prod.mk.inj (Except.ok.inj h)
        have hstatement : s.document.statements[j]? = some ((g.statement src).marked on) := by
          rw [hs, Document.marked, Document.statements_ofItems, List.getElem?_map, List.getElem?_map,
            hgroups _ (List.mem_singleton_self _)]
          rfl
        exact ⟨decl.merge r.specifier, kept_mergeInto r (hkept _) (hvalues ▸ List.mem_singleton_self _),
          arranged_mergeInto _ hplaces hstatement rfl⟩
  | p :: q :: values => cases h

end Session

namespace Settings

/-- The import that a run writes anew, if there are calls to redirect. -/
def mergedImport? (s : Settings) (file : SourceText) (calls : List CallSite) : Option Patch :=
  if calls.isEmpty then none else Document.mergedImport? (Bytes.ofString file.code) file.root s.request

section Process
variable {s : Settings} {code : String} {root : Node} (hroot : root.WellFormed code)
  (hproper : ∀ c ∈ CallSite.all (Bytes.ofString code) s.target root, c.Proper)
include hroot hproper

theorem rewritten_process {p : Processed} (hp : s.process (.ofItems (Bytes.ofString code) root) = .ok p)
    (hpos : 0 < p.redirected) {out : Bytes} (hrender : p.session.document.renderBytes = .ok out) :
    ∃ cuts, out = (Bytes.ofString code).edited 0 (Bytes.ofString code).length cuts ∧
      Document.Rewritten (Bytes.ofString code) root
        ((Session.ambientCalls (.ofItems (Bytes.ofString code) root) s.target).map (CallSite.patch s.target))
        (Document.mergedImport? (Bytes.ofString code) root s.request) (Bytes.ofString s.request.declaration.print)
        cuts := by
  obtain ⟨n, done, ready, final, changed, hredirect, hready, hensure, hfinal⟩ := process_eq_ok hp hpos
  have hmarked := hready.trans (Session.redirect_eq_marked (Document.apart_ofItems hroot _) hredirect)
  obtain ⟨decl, hkept, hplaces⟩ := Session.arranged_ensure hmarked
    (fun decl => hready ▸ kept_redirect hroot hproper hredirect decl) hensure
  rw [← hfinal] at hkept hplaces
  have hpatches : p.session.document.patches s.target =
      (Session.ambientCalls (.ofItems (Bytes.ofString code) root) s.target).map (CallSite.patch s.target) := by
    rw [Document.patches, Document.ambientCalls_eq, hkept.source, hkept.tree]
  have hrewrites : p.session.document.Rewrites (p.session.document.patches s.target)
      (Document.mergedImport? (Bytes.ofString code) root s.request) (Bytes.ofString s.request.declaration.print) out := by
    refine Document.Kept.rewrites ?_ (hkept.tree ▸ hroot) hkept.source ?_ (by rw [hkept.tree]; exact hplaces) hrender
    · rw [hpatches, hkept.source, hkept.tree]
      exact hkept
    · rw [hkept.source, hkept.tree]
      exact hproper
  obtain ⟨cuts, hcuts, hout⟩ := hrewrites
  rw [hpatches, hkept.source, hkept.tree] at hcuts
  rw [hkept.source] at hout
  exact ⟨cuts, hout, hcuts⟩

end Process

/-- What a run makes of the comments of a file. Its text is the file with cuts in it. Some of them put the function in the
place of a callee, one may write an import anew, and the others stand between the items of the file. A comment in a callee
or in that import is cut out with it. Every other comment is kept: no cut reaches into it. -/
theorem run_comments {s : Settings} {file : SourceText} {o : Outcome} (hrun : (s.run file).result = .ok o)
    (hroot : file.root.WellFormed file.code)
    (hproper : ∀ c ∈ CallSite.all (Bytes.ofString file.code) s.target file.root, c.Proper) :
    ∃ (calls : List CallSite) (cuts : List Patch),
      (∀ c, c ∈ calls ↔ c.call ∈ file.root.preorder [] ∧ c.IsCallOf (Bytes.ofString file.code) s.target ∧
        (ScopeTable.ofTree (Bytes.ofString file.code) file.root).resolve c.objectSite s.object = none) ∧
      o.redirected = calls.length ∧
      Bytes.ofString o.code = (Bytes.ofString file.code).edited 0 (Bytes.ofString file.code).length cuts ∧
      Document.Rewritten (Bytes.ofString file.code) file.root (calls.map (CallSite.patch s.target))
        (s.mergedImport? file calls) (Bytes.ofString s.request.declaration.print) cuts ∧
      ∀ n ∈ file.root.nodes, n.isComment = true →
        (∃ p ∈ calls.map (CallSite.patch s.target) ++ (s.mergedImport? file calls).toList, p ∈ cuts ∧ p.Holds n) ∨
          (∀ p ∈ calls.map (CallSite.patch s.target) ++ (s.mergedImport? file calls).toList, ¬ p.Holds n) ∧
            (Bytes.ofString file.code).Retained cuts (Bytes.ofString o.code) n.start n.stop := by
  obtain ⟨p, -, hp, hredirected, hcases⟩ := run_cases hrun
  have hcount : p.redirected = (Session.ambientCalls (.ofItems (Bytes.ofString file.code) file.root) s.target).length := by
    rw [redirected_process hp, Session.length_placed hroot]
  have hcalls := (Session.sublist_ambientCalls (Bytes.ofString file.code) file.root s.target).subset
  have hmem (c : CallSite) : c ∈ Session.ambientCalls (.ofItems (Bytes.ofString file.code) file.root) s.target ↔ _ :=
    Session.mem_ambientCalls_iff
  generalize hambient : Session.ambientCalls (.ofItems (Bytes.ofString file.code) file.root) s.target = calls
    at hcount hcalls hmem
  have hcuts : ∃ cuts, Bytes.ofString o.code = (Bytes.ofString file.code).edited 0 (Bytes.ofString file.code).length cuts ∧
      Document.Rewritten (Bytes.ofString file.code) file.root (calls.map (CallSite.patch s.target))
        (s.mergedImport? file calls) (Bytes.ofString s.request.declaration.print) cuts := by
    rcases hcases with ⟨hzero, hcode, -⟩ | ⟨hpos, hrender, -⟩
    · obtain rfl := List.length_eq_zero_iff.1 (hcount.symm.trans hzero)
      exact ⟨[], by simp [hcode, Bytes.edited, Bytes.slice], Nat.zero_le _, by simp, nofun, by simp⟩
    · obtain ⟨bytes, hbytes, hdecode⟩ := Failure.bind_eq_ok_iff.1 hrender
      obtain rfl := Bytes.eq_ofString_of_decode hdecode
      have hsome : calls.isEmpty = false := List.isEmpty_eq_false_iff.2 (List.ne_nil_of_length_pos (hcount ▸ hpos))
      rw [mergedImport?, hsome, ← hambient]
      exact rewritten_process hroot hproper hp hpos hbytes
  obtain ⟨cuts, hout, hrewritten⟩ := hcuts
  refine ⟨calls, cuts, hmem, hredirected.trans hcount, hout, hrewritten, fun n hn hcomment => ?_⟩
  have hmerged : ∀ q ∈ s.mergedImport? file calls, ∃ n ∈ file.root.children, q.start = n.start ∧ q.stop = n.stop := by
    intro q hq
    unfold mergedImport? at hq
    split at hq
    · cases hq
    · exact Document.exists_mergedImport hq
  refine (hrewritten.comment hroot (fun c hc => hcalls hc) hmerged hn hcomment).imp_right ?_
  rintro ⟨hnone, hapart⟩
  refine ⟨hnone, ?_⟩
  obtain ⟨m, hm, hnm⟩ := hroot.exists_child hn hcomment
  rw [hout]
  exact Bytes.retained_edited hrewritten.ordered (hroot.nested.span_in_child hm hnm).2.1
    (hroot.boundaries n hn).2.le_length hapart

/-- A call with comments in its callee, behind it, and in its arguments. -/
def calleeComments : SourceText where
  code := "console/*a*/./*b*/error/*c*/(/*d*/e/*f*/);\n"
  root :=
    ⟨"program", true, false, 0, 43, none,
      [⟨"expression_statement", true, false, 0, 42, none,
        [⟨"call_expression", true, false, 0, 41, none,
          [⟨"member_expression", true, false, 0, 23, some "function",
            [⟨"identifier", true, false, 0, 7, some "object", []⟩, ⟨"comment", true, false, 7, 12, none, []⟩,
              ⟨"comment", true, false, 13, 18, none, []⟩,
              ⟨"property_identifier", true, false, 18, 23, some "property", []⟩]⟩,
            ⟨"comment", true, false, 23, 28, none, []⟩,
            ⟨"arguments", true, false, 28, 41, some "arguments",
              [⟨"comment", true, false, 29, 34, none, []⟩, ⟨"identifier", true, false, 34, 35, none, []⟩,
                ⟨"comment", true, false, 35, 40, none, []⟩]⟩]⟩]⟩]⟩

/-- The comments in the callee are cut out with it, and the one behind it is kept. -/
theorem run_comments_callee :
    ∃ (o : Outcome) (cuts : List Patch), (run { dialect := .js } calleeComments).result = .ok o ∧
      o.code = "import \x7b logError \x7d from \"src/lib.logger\";\nlogError/*c*/(/*d*/e/*f*/);\n" ∧
      (∃ p ∈ cuts, p.Holds ⟨"comment", true, false, 7, 12, none, []⟩) ∧
      (Bytes.ofString calleeComments.code).Retained cuts (Bytes.ofString o.code) 23 28 := by
  have hcode : ((run { dialect := .js } calleeComments).result.toOption.map fun o => (o.code, o.redirected)) =
      some ("import \x7b logError \x7d from \"src/lib.logger\";\nlogError/*c*/(/*d*/e/*f*/);\n", 1) := by
    decide +kernel
  cases hrun : (run { dialect := .js } calleeComments).result with
  | error e =>
    rw [hrun] at hcode
    cases hcode
  | ok o =>
    rw [hrun] at hcode
    obtain ⟨hcode, hredirected⟩ := Prod.mk.inj (Option.some.inj hcode)
    obtain ⟨calls, cuts, hcalls, hcount, -, -, hcomments⟩ := run_comments hrun (by decide +kernel) (by decide +kernel)
    have hspans : ∀ c ∈ CallSite.all (Bytes.ofString calleeComments.code) (target { dialect := .js }) calleeComments.root,
        c.call.node.start = 0 ∧ c.callee.stop = 23 := by
      decide +kernel
    have hspan (c : CallSite) (hc : c ∈ calls) : c.call.node.start = 0 ∧ c.callee.stop = 23 :=
      hspans c (CallSite.mem_all_iff.2 ⟨((hcalls c).1 hc).1, ((hcalls c).1 hc).2.1⟩)
    obtain ⟨c, hc⟩ : ∃ c, c ∈ calls := List.exists_mem_of_length_pos (by omega)
    have hmerged : (mergedImport? { dialect := .js } calleeComments calls).toList = [] := by
      have hnone : Document.mergedImport? (Bytes.ofString calleeComments.code) calleeComments.root
          (request { dialect := .js }) = none := Option.isNone_iff_eq_none.1 (by decide +kernel)
      rw [mergedImport?, hnone, ite_self]
      rfl
    rw [hmerged, List.append_nil] at hcomments
    have ha : ⟨"comment", true, false, 7, 12, none, []⟩ ∈ calleeComments.root.nodes := by
      simp [calleeComments, Node.nodes_eq]
    have hb : ⟨"comment", true, false, 23, 28, none, []⟩ ∈ calleeComments.root.nodes := by
      simp [calleeComments, Node.nodes_eq]
    refine ⟨o, cuts, rfl, hcode, ?_, ?_⟩
    · rcases hcomments _ ha rfl with ⟨p, -, hp⟩ | ⟨hnot, -⟩
      · exact ⟨p, hp⟩
      · refine absurd ?_ (hnot _ (List.mem_map_of_mem hc))
        show c.call.node.start ≤ 7 ∧ 12 ≤ c.callee.stop
        have := hspan c hc
        omega
    · rcases hcomments _ hb rfl with ⟨p, hp, -, hholds⟩ | ⟨-, hkept⟩
      · obtain ⟨c, hc, rfl⟩ := List.mem_map.1 hp
        have hstop : 28 ≤ c.callee.stop := hholds.2
        have := hspan c hc
        omega
      · exact hkept

/-- An import whose only entry is a comment, and a call. -/
def emptyImport : SourceText where
  code := "import \x7b /* only */ \x7d from \"src/lib.logger\";\nconsole.error(e);\n"
  root :=
    ⟨"program", true, false, 0, 63, none,
      [⟨"import_statement", true, false, 0, 44, none,
        [⟨"import_clause", true, false, 7, 21, none,
          [⟨"named_imports", true, false, 7, 21, none, [⟨"comment", true, false, 9, 19, none, []⟩]⟩]⟩,
          ⟨"string", true, false, 27, 43, some "source", []⟩]⟩,
        ⟨"expression_statement", true, false, 45, 62, none,
          [Session.consoleCall 45 61 [⟨"identifier", true, false, 59, 60, none, []⟩]]⟩]⟩

/-- The text of some comment of the file is nowhere in what the run returns. -/
def DropsComment (s : Settings) (file : SourceText) : Prop :=
  ∃ o, (s.run file).result = .ok o ∧ ∃ n ∈ file.root.nodes, n.isComment = true ∧
    ¬ (Bytes.ofString file.code).slice n.start n.stop <:+: Bytes.ofString o.code

/-- Comments are lost, in a callee and in an import that gets one more entry. -/
theorem run_drops_comments :
    DropsComment { dialect := .js } calleeComments ∧ DropsComment { dialect := .js } emptyImport := by
  have hdrops {s : Settings} {file : SourceText} (h : ((s.run file).result.toOption.map fun o =>
      decide (∃ n ∈ file.root.nodes, n.isComment = true ∧
        ¬ (Bytes.ofString file.code).slice n.start n.stop <:+: Bytes.ofString o.code)) = some true) :
      DropsComment s file := by
    cases hrun : (s.run file).result with
    | error e =>
      rw [hrun] at h
      cases h
    | ok o =>
      rw [hrun] at h
      exact ⟨o, hrun, of_decide_eq_true (Option.some.inj h)⟩
  exact ⟨hdrops (by decide +kernel), hdrops (by decide +kernel)⟩

end Settings
end CallRedirect
