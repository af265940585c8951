import CallRedirect.Proofs.Composition
import CallRedirect.Proofs.Idempotence
import CallRedirect.Proofs.Naming
import CallRedirect.Proofs.Reporting

/-! # How runs end

A run ends in one of four ways. A text that does not fit the grammar is reported at its first fault. Else a notice may be
refused by the handler that it is given to. Else, if there is a call to redirect and several declarations import values from
the module of the function, these are reported. Else the run returns: nothing can go wrong with splicing, with printing and
with the encoding.

* `Bytes.At`: lines and columns.
* `Document.ensured_eq_error`, `Document.ensured_eq_ok`: when an import can be ensured.
* `Settings.process_of_ambient`: what a run does to a file with calls to redirect.
* `Settings.made_marked`: what its document is made of.
* `Settings.Tells`: the notices of a run, of which a reporter may refuse those that name the module.
* `Settings.run_result`: the ends of a run. -/

namespace CallRedirect
set_option autoImplicit false

/-! ## Lines and columns -/

namespace Bytes

/-- The offset is in a line, so many bytes after its first one; both are counted from one. -/
def At (b : Bytes) (p line column : Nat) : Prop :=
  ∃ lines rest : Bytes, b.take p = lines ++ rest ∧ (lines = [] ∨ lines.getLast? = some lineFeed) ∧
    lineFeed ∉ rest ∧ line = lines.count lineFeed + 1 ∧ column = rest.length + 1

theorem at_line_column (b : Bytes) (p : Nat) : b.At p (b.line p) (b.column p) := by
  have hrest : lineFeed ∉ (b.take p).rtakeWhile (· != lineFeed) := by
    intro hmem
    simpa using List.mem_rtakeWhile_imp hmem
  refine ⟨(b.take p).rdropWhile (· != lineFeed), (b.take p).rtakeWhile (· != lineFeed),
    List.rdropWhile_append_rtakeWhile.symm, ?_, hrest, ?_, ?_⟩
  · by_cases hnil : (b.take p).rdropWhile (· != lineFeed) = []
    · exact .inl hnil
    · have hlast := List.rdropWhile_last_not (· != lineFeed) (b.take p) hnil
      right
      rw [List.getLast?_eq_some_getLast hnil]
      simpa using hlast
  · have hcount : (b.take p).count lineFeed =
        ((b.take p).rdropWhile (· != lineFeed)).count lineFeed +
          ((b.take p).rtakeWhile (· != lineFeed)).count lineFeed := by
      rw [← List.count_append, List.rdropWhile_append_rtakeWhile]
    rw [line, lineFeeds, hcount, List.count_eq_zero.2 hrest, Nat.add_zero]
  · rw [column, List.rtakeWhile, List.length_reverse]

end Bytes

/-! ## Callees -/

/-- The callee of a call has some width, because the property in it has a name. -/
theorem CallSite.callee_width {code : String} {root : Node} {t : Target} {c : CallSite} (hroot : root.WellFormed code)
    (hseverity : t.severity ≠ "") (hc : c ∈ all (Bytes.ofString code) t root) : c.callee.start < c.callee.stop := by
  obtain ⟨hsite, hshape⟩ := mem_all_iff.1 hc
  obtain ⟨p, hp, -, htext⟩ := hshape.property
  have hnested := (nested_call hroot.nested hsite).child (callee_mem_children hshape)
  have hspan := hnested.child_span (Node.mem_children_of_child? hp)
  have hwidth : p.start < p.stop := by
    by_contra hle
    have hnil : (Bytes.ofString code).slice p.start p.stop = [] := by
      simp only [Bytes.slice, List.drop_eq_nil_iff, List.length_take]
      omega
    rw [Node.text, hnil] at htext
    exact hseverity (htext.symm.trans (by decide))
  omega

/-! ## The tree -/

/-- What a parser promises about the flag of a tree: it is set if some node does not fit the grammar, and only then. -/
def Node.Flagged (root : Node) (hasError : Bool) : Prop := hasError = true ↔ ∃ n ∈ root.nodes, n.faulty = true

instance (root : Node) (hasError : Bool) : Decidable (root.Flagged hasError) :=
  inferInstanceAs (Decidable (hasError = true ↔ ∃ n ∈ root.nodes, n.faulty = true))

theorem Node.firstFaulty?_eq_find? (root : Node) : root.firstFaulty? = root.nodes.find? Node.faulty := by
  rw [firstFaulty?, sites_eq_preorder, nodes]

theorem Node.Flagged.eq_hasFaulty {root : Node} {hasError : Bool} (h : root.Flagged hasError) :
    hasError = root.hasFaulty := by
  rw [Bool.eq_iff_iff, hasFaulty, firstFaulty?_eq_find?, List.find?_isSome]
  exact h

/-- The bytes of a node spell its text. -/
theorem Node.WellFormed.decode_text {code : String} {root n : Node} (h : root.WellFormed code) (hn : n ∈ root.nodes) :
    Bytes.decode ((Bytes.ofString code).slice n.start n.stop) = .ok (n.text (Bytes.ofString code)) := by
  obtain ⟨hstart, hstop⟩ := h.boundaries n hn
  exact (Bytes.isText_slice hstart hstop).decode_eq

/-! ## Ensuring -/

namespace Document

theorem ensured_eq_error {d : Document} {r : Request} (h : 1 < (d.valueImportsFrom r.origin).length) :
    d.ensured r = .error (.rivalImports r.origin (d.valueImportsFrom r.origin).length
      ((d.valueImportsFrom r.origin).filterMap fun p => d.lineOf? p.1)) := by
  rw [ensured]
  split
  · next hnil => simp [hnil] at h
  · next i decl hone => simp [hone] at h
  · rfl

theorem ensured_eq_ok {d : Document} {r : Request} (h : (d.valueImportsFrom r.origin).length ≤ 1) :
    ∃ changed d', d.ensured r = .ok (changed, d') := by
  rw [ensured]
  split
  · exact ⟨_, _, rfl⟩
  · split
    · exact ⟨_, _, rfl⟩
    · split <;> exact ⟨_, _, rfl⟩
  · next hnil hone =>
    rcases hvalues : d.valueImportsFrom r.origin with _ | ⟨p, _ | ⟨q, rest⟩⟩
    · exact absurd hvalues hnil
    · exact absurd hvalues (hone p.1 p.2)
    · simp [hvalues] at h

/-- The declarations of a file that import values from a module, as the failure lists them. -/
theorem ensured_ofItems_eq_error {src : Bytes} {root : Node} {r : Request}
    (h : 1 < (valueImports src root r.origin).length) :
    (ofItems src root).ensured r = .error (.rivalImports r.origin (valueImports src root r.origin).length
      ((valueImports src root r.origin).map fun p => src.line p.1.node.start)) := by
  have hlines := @lines_valueGroups src root (valueGroups src root r.origin) fun p hp => mem_valueGroups hp
  rw [valueImports_eq, List.length_map] at h ⊢
  rw [ensured_eq_error, valueImportsFrom_ofItems, hlines, List.length_map]
  rwa [valueImportsFrom_ofItems, List.length_map]

theorem ensured_ofItems_eq_ok {src : Bytes} {root : Node} {r : Request}
    (h : (valueImports src root r.origin).length ≤ 1) : ∃ changed d', (ofItems src root).ensured r = .ok (changed, d') := by
  rw [valueImports_eq, List.length_map] at h
  apply ensured_eq_ok
  rwa [valueImportsFrom_ofItems, List.length_map]

end Document

namespace Session

theorem ensure_of_ensured {r : Request} {s : Session} {changed : Bool} {d : Document}
    (h : s.document.ensured r = .ok (changed, d)) : ∃ s', s.ensure r = .ok (changed, s') ∧ s'.document = d := by
  have hmap := map_ensure r s
  rw [h] at hmap
  cases hensure : s.ensure r with
  | error e =>
    rw [hensure] at hmap
    cases hmap
  | ok p =>
    rw [hensure] at hmap
    obtain ⟨rfl, rfl⟩ := Prod.mk.inj (Except.ok.inj hmap)
    exact ⟨p.2, rfl, rfl⟩

theorem ensure_of_ensured_error {r : Request} {s : Session} {e : Failure} (h : s.document.ensured r = .error e) :
    s.ensure r = .error e := by
  have hmap := map_ensure r s
  rw [h] at hmap
  cases hensure : s.ensure r with
  | error e' =>
    rw [hensure] at hmap
    rw [Except.error.inj hmap]
  | ok p =>
    rw [hensure] at hmap
    cases hmap

end Session

/-! ## Notices -/

namespace Session

theorem notices_noteAll (s : Session) (es : List Event) : (s.noteAll es).notices = s.notices := by
  induction es generalizing s with
  | nil => rfl
  | cons e es ih => exact ih (s.note e)

theorem notices_foldlM_replaceIn {s s' : Session} {gs : List (Nat × List Replacement)}
    (h : gs.foldlM replaceIn s = .ok s') : s'.notices = s.notices := by
  induction gs generalizing s with
  | nil =>
    obtain rfl := Except.ok.inj h
    rfl
  | cons g gs ih =>
    rw [List.foldlM_cons] at h
    obtain ⟨s₁, hs₁, h⟩ := Failure.bind_eq_ok_iff.1 h
    obtain ⟨events, -, hs₁⟩ := Failure.bind_eq_ok_iff.1 hs₁
    obtain rfl := Except.ok.inj hs₁
    rw [ih h]
    exact notices_noteAll s events

theorem notices_redirect {t : Target} {s s' : Session} {n : Nat} (h : s.redirect t = .ok (n, s')) :
    s'.notices = s.notices ++ [.redirected n] := by
  obtain ⟨s₁, hs₁, h⟩ := Failure.bind_eq_ok_iff.1 h
  obtain ⟨rfl, rfl⟩ := Prod.mk.inj (Except.ok.inj h)
  show s₁.notices ++ _ = _
  rw [notices_foldlM_replaceIn hs₁, notices_noteAll]

theorem mem_notices_insertImport {s : Session} {r : Request} {n : Notice} (h : n ∈ (s.insertImport r).notices) :
    n ∈ s.notices ∨ n = .commentsMoved := by
  unfold insertImport at h
  split at h
  · exact .inl h
  · dsimp only at h
    split at h
    · exact (List.mem_append.1 h).imp_right List.mem_singleton.1
    · exact .inl h

theorem mem_notices_ensure {r : Request} {s s' : Session} {changed : Bool} (h : s.ensure r = .ok (changed, s'))
    {n : Notice} (hn : n ∈ s'.notices) : n ∈ s.notices ∨ n = .commentsMoved ∨ n = .merged r.name r.origin := by
  have hinserted (hn : n ∈ (s.insertImport r).notices) :
      n ∈ s.notices ∨ n = .commentsMoved ∨ n = .merged r.name r.origin :=
    (mem_notices_insertImport hn).imp_right .inl
  rw [ensure_eq] at h
  split at h
  · obtain ⟨-, rfl⟩ := Prod.mk.inj (Except.ok.inj h)
    exact hinserted hn
  · split at h
    · obtain ⟨-, rfl⟩ := Prod.mk.inj (Except.ok.inj h)
      exact hinserted hn
    · split at h
      · obtain ⟨-, rfl⟩ := Prod.mk.inj (Except.ok.inj h)
        exact .inl hn
      · obtain ⟨-, rfl⟩ := Prod.mk.inj (Except.ok.inj h)
        exact (List.mem_append.1 hn).imp_right fun hn => .inr (List.mem_singleton.1 hn)
  · cases h

end Session

namespace Settings

/-- The notices that a run may give of a file. -/
inductive Tells (s : Settings) (path : Option String) : Notice → Prop
  | redirected (count : Nat) : Tells s path (.redirected count)
  | merged : Tells s path (.merged s.function s.origin)
  | commentsMoved : Tells s path .commentsMoved
  | callsRedirected (count : Nat) : Tells s path (.callsRedirected path count s.callee)
  | importAdded : Tells s path (.importAdded path s.function s.origin)

section Tells
variable {s : Settings} {path : Option String}

theorem tells_redirect {d : Document} {count : Nat} {done : Session} (h : (s.opened d).redirect s.target = .ok (count, done))
    {n : Notice} (hn : n ∈ done.notices) : s.Tells path n := by
  rw [Session.notices_redirect h] at hn
  obtain rfl := List.mem_singleton.1 hn
  exact .redirected count

theorem tells_process {d : Document} {p : Processed} (h : s.process d = .ok p) {n : Notice} (hn : n ∈ p.session.notices) :
    s.Tells path n := by
  obtain ⟨count, done, hredirect, ⟨-, rfl⟩ | ⟨-, changed, final, hensure, rfl⟩⟩ := process_cases h
  · exact tells_redirect hredirect hn
  · rcases Session.mem_notices_ensure hensure hn with hn | rfl | rfl
    · exact tells_redirect hredirect hn
    · exact .commentsMoved
    · exact .merged

theorem tells_process_error {d : Document} {i : Interruption} (h : s.process d = .error i) {n : Notice} (hn : n ∈ i.notices) :
    s.Tells path n := by
  unfold process at h
  dsimp only at h
  split at h
  · obtain rfl := Except.error.inj h
    exact absurd hn List.not_mem_nil
  · next count done hredirect =>
    split at h
    · cases h
    · unfold importFunction at h
      dsimp only at h
      split at h
      · obtain rfl := Except.error.inj h
        exact tells_redirect hredirect hn
      · cases h

/-- A run gives no other notices. -/
theorem tells_run {file : SourceText} {n : Notice} (hn : n ∈ (s.run file).notices) : s.Tells file.path n := by
  rw [run_eq] at hn
  split at hn
  · exact absurd hn List.not_mem_nil
  · split at hn
    · next hprocess => exact tells_process_error hprocess hn
    · next p hprocess =>
      unfold conclude at hn
      dsimp only at hn
      split at hn
      · exact tells_process hprocess hn
      · rcases List.mem_append.1 hn with hn | hn
        · exact tells_process hprocess hn
        · rcases List.mem_cons.1 hn with rfl | hn
          · exact .callsRedirected p.redirected
          · split at hn
            · obtain rfl := List.mem_singleton.1 hn
              exact .importAdded
            · exact absurd hn List.not_mem_nil

/-- A reporter takes them all, if there is no bracket in the name of the module. -/
theorem Tells.handler_eq_none {given : Given} (hs : check given = .ok s) (horigin : '[' ∉ s.origin.toList) {n : Notice}
    (h : s.Tells path n) (r : Reporter) : r.handler n = none := by
  have hname {name : String} (h : name ∈ s.names) : '[' ∉ name.toList := (isWordOrLine_of_mem_names hs h).bracket_not_mem
  have hfunction : '[' ∉ s.function.toList := hname (by simp [names])
  apply r.handler_eq_none
  cases h with
  | redirected count => exact fun _ h => absurd h List.not_mem_nil
  | commentsMoved => exact fun _ h => absurd h List.not_mem_nil
  | merged => simp [Notice.rawParts, hfunction, horigin]
  | importAdded => simp [Notice.rawParts, hfunction, horigin]
  | callsRedirected count => simpa [Notice.rawParts] using hname s.callee_mem_names

end Tells

/-! ## The document -/

section Process
variable {s : Settings} {code : String} {root : Node}

/-- What a run does to a file with calls to redirect is what ensuring the import does to the file, but for the calls. -/
theorem process_of_ambient (hroot : root.WellFormed code)
    (hwidth : ∀ c ∈ CallSite.all (Bytes.ofString code) s.target root, c.callee.start < c.callee.stop)
    (hsome : Session.ambientCalls (.ofItems (Bytes.ofString code) root) s.target ≠ []) :
    match (Document.ofItems (Bytes.ofString code) root).ensured s.request with
    | .error e => ∃ notices, s.process (.ofItems (Bytes.ofString code) root) = .error ⟨notices, e⟩
    | .ok (changed, d) =>
      ∃ p, s.process (.ofItems (Bytes.ofString code) root) = .ok p ∧ 0 < p.redirected ∧ p.importChanged = changed ∧
        p.session.document =
          d.marked (Session.placedAt (.ofItems (Bytes.ofString code) root) s.target) := by
  obtain ⟨n, done, hredirect, hdone⟩ := Session.redirect_of_width (s := s.opened (.ofItems (Bytes.ofString code) root))
    hroot hwidth ⟨rfl, rfl, .refl _, fun h => h⟩
  have hn : n ≠ 0 := by
    rw [Session.count_redirect hredirect]
    show (Session.placed (.ofItems (Bytes.ofString code) root) s.target).length ≠ 0
    rw [Session.length_placed hroot]
    exact mt List.length_eq_zero_iff.1 hsome
  have hready : (done.finishPhase.startPhase "Ensure Import" s.origin).document.ensured s.request =
      ((Document.ofItems (Bytes.ofString code) root).ensured s.request).map fun p =>
        (p.1, p.2.marked (Session.placedAt (.ofItems (Bytes.ofString code) root) s.target)) := by
    rw [← Document.ensured_marked]
    exact congrArg (Document.ensured s.request) hdone
  have hprocess : s.process (.ofItems (Bytes.ofString code) root) = s.importFunction n done.finishPhase := by
    unfold process
    dsimp only
    rw [hredirect]
    exact if_neg hn
  rw [hprocess, importFunction]
  split
  · next e he =>
    rw [he] at hready
    rw [Session.ensure_of_ensured_error hready]
    exact ⟨_, rfl⟩
  · next changed d hd =>
    rw [hd] at hready
    obtain ⟨final, hfinal, hdocument⟩ := Session.ensure_of_ensured hready
    rw [hfinal]
    exact ⟨_, rfl, Nat.pos_of_ne_zero hn, rfl, hdocument⟩

/-- What the document of a run is made of. -/
theorem made_marked (written : ImportDecl → Prop) (hnew : written s.request.declaration)
    (hmerged : ∀ i decl, (i, decl) ∈ (Document.ofItems (Bytes.ofString code) root).valueImportsFrom s.origin →
      written (decl.merge s.request.specifier))
    {changed : Bool} {d : Document}
    (hd : (Document.ofItems (Bytes.ofString code) root).ensured s.request = .ok (changed, d)) :
    (d.marked (Session.placedAt (.ofItems (Bytes.ofString code) root) s.target)).Made (Bytes.ofString code) root
      (fun r => ∃ c ∈ CallSite.all (Bytes.ofString code) s.target root, c.replacement s.target = r) written := by
  refine ((Document.made_ofItems _ root _ written).ensured hnew hmerged hd).marked fun offset r hr => ?_
  obtain ⟨c, hc, rfl⟩ := List.mem_map.1 hr
  exact ⟨c, (Session.sublist_ambientCalls _ _ _).subset (List.mem_of_mem_filter hc), rfl⟩

/-- What a run returns of a file with calls to redirect. -/
theorem run_of_ambient {file : SourceText} (hfault : file.root.firstFaulty? = none) (hroot : file.root.WellFormed file.code)
    (hwidth : ∀ c ∈ CallSite.all (Bytes.ofString file.code) s.target file.root, c.callee.start < c.callee.stop)
    (hsome : Session.ambientCalls (.ofItems (Bytes.ofString file.code) file.root) s.target ≠ []) :
    match (Document.ofItems (Bytes.ofString file.code) file.root).ensured s.request with
    | .error e => (s.run file).result = .error e
    | .ok (changed, _) => ∃ o, (s.run file).result = .ok o ∧ 0 < o.redirected ∧ o.importChanged = changed := by
  have hprocess := process_of_ambient hroot hwidth hsome
  rw [run_eq, Document.ofTree_eq_ok hfault]
  split
  · next e he =>
    rw [he] at hprocess
    obtain ⟨notices, hprocess⟩ := hprocess
    dsimp only
    rw [hprocess]
  · next changed d hd =>
    rw [hd] at hprocess
    obtain ⟨p, hp, hredirected, hchanged, hdocument⟩ := hprocess
    have hmade := made_marked (fun _ => True) trivial (fun _ _ _ => trivial) hd
    rw [← hdocument] at hmade
    obtain ⟨text, htext⟩ : ∃ text, p.session.document.render = .ok text := by
      apply hmade.render hroot
      · rintro r ⟨c, hc, rfl⟩
        exact CallSite.proper_replacement hroot.nested hc (hwidth c hc) _
      · rintro r ⟨c, hc, rfl⟩
        exact CallSite.bounded_replacement hroot hc _
    dsimp only
    rw [hp]
    unfold conclude
    dsimp only
    rw [if_neg (Nat.ne_of_gt hredirected), htext]
    exact ⟨_, rfl, hredirected, hchanged⟩

end Process

/-! ## All runs -/

section Results
variable {given : Given} {s : Settings} {file : SourceText}

theorem run_of_faulty {n : Node} (h : file.root.nodes.find? Node.faulty = some n) :
    s.run file = ⟨[], .error (.malformed s.dialect ((Bytes.ofString file.code).line n.start)
      ((Bytes.ofString file.code).column n.start))⟩ := by
  rw [run_eq, Document.ofTree_eq_error (file.root.firstFaulty?_eq_find?.trans h)]
  rfl

/-- The result of a run on a tree without faults, apart from what is made of its notices. -/
theorem result_run (hs : check given = .ok s) (hfault : file.root.firstFaulty? = none)
    (hroot : file.root.WellFormed file.code) :
    let src := Bytes.ofString file.code
    let values := Document.valueImports src file.root s.origin
    let ambient := ∃ c : CallSite, c.call ∈ file.root.preorder [] ∧ c.IsCallOf src s.target ∧
      (ScopeTable.ofTree src file.root).resolve c.objectSite s.object = none
    (ambient ∧ 1 < values.length →
      (s.run file).result =
        .error (.rivalImports s.origin values.length (values.map fun p => src.line p.1.node.start))) ∧
    (¬ (ambient ∧ 1 < values.length) →
      ∃ o, (s.run file).result = .ok o ∧ (ambient → 0 < o.redirected) ∧
        (¬ ambient → o.code = file.code ∧ o.redirected = 0)) := by
  intro src values ambient
  have hwidth : ∀ c ∈ CallSite.all src s.target file.root, c.callee.start < c.callee.stop :=
    fun c hc => CallSite.callee_width hroot (check_names hs).2.1 hc
  have hambient : ambient ↔ Session.ambientCalls (.ofItems src file.root) s.target ≠ [] := by
    rw [Ne, List.eq_nil_iff_forall_not_mem, not_forall_not]
    exact exists_congr fun c => Session.mem_ambientCalls_iff.symm
  by_cases hcalls : ambient
  · have hrun := run_of_ambient hfault hroot hwidth (hambient.1 hcalls)
    refine ⟨fun h => ?_, fun h => ?_⟩
    · have herror := Document.ensured_ofItems_eq_error (r := s.request) h.2
      rw [herror] at hrun
      exact hrun
    · have hone : values.length ≤ 1 := Nat.le_of_not_lt fun hlt => h ⟨hcalls, hlt⟩
      obtain ⟨changed, d, hok⟩ := Document.ensured_ofItems_eq_ok (r := s.request) hone
      rw [hok] at hrun
      obtain ⟨o, ho, hredirected, -⟩ := hrun
      exact ⟨o, ho, fun _ => hredirected, fun h => absurd hcalls h⟩
  · have hnocalls : Session.ambientCalls (.ofItems src file.root) s.target = [] := by
      by_contra hne
      exact hcalls (hambient.2 hne)
    obtain ⟨o, ho, hredirected, hcode, -⟩ := run_of_settled hfault hnocalls file.path
    exact ⟨fun h => absurd h.1 hcalls, fun _ => ⟨o, ho, fun h => absurd h hcalls, fun _ => ⟨hcode, hredirected⟩⟩⟩

end Results

/-- How a run ends under a handler. A tree with a fault is reported at the first one in document order. Else the run ends at
the first notice that the handler refuses. Else several declarations that import values from the module are reported, if there
is a call to redirect. Else the run returns, and the file is as it was if there is no such call. A reporter is such a handler,
and refuses no notice if the name of the module has no bracket in it. -/
theorem run_result {given : Given} {s : Settings} (hs : check given = .ok s) (file : SourceText) (hasError : Bool)
    (hflag : file.root.Flagged hasError)
    (hroot : (∀ n ∈ file.root.nodes, n.faulty = false) → file.root.WellFormed file.code) {ε : Type} (handler : Handler ε) :
    let src := Bytes.ofString file.code
    let values := Document.valueImports src file.root s.origin
    let ambient := ∃ c : CallSite, c.call ∈ file.root.preorder [] ∧ c.IsCallOf src s.target ∧
      (ScopeTable.ofTree src file.root).resolve c.objectSite s.object = none
    let report := s.runFlagged file hasError
    (∀ n, file.root.nodes.find? Node.faulty = some n →
      ∃ line column, src.At n.start line column ∧
        report.under handler = .error (.failed (.malformed s.dialect line column))) ∧
    (file.root.nodes.find? Node.faulty = none →
      (∀ n ∈ file.root.nodes, Bytes.decode (src.slice n.start n.stop) = .ok (n.text src)) ∧
      ((∃ n ∈ report.notices, ∃ reason, handler n = some reason ∧ report.under handler = .error (.refused reason)) ∨
        (∀ n ∈ report.notices, handler n = none) ∧
        (ambient ∧ 1 < values.length →
          report.under handler = .error (.failed
            (.rivalImports s.origin values.length (values.map fun p => src.line p.1.node.start)))) ∧
        (¬ (ambient ∧ 1 < values.length) →
          ∃ o, report.under handler = .ok o ∧ (ambient → 0 < o.redirected) ∧
            (¬ ambient → o.code = file.code ∧ o.redirected = 0)))) ∧
    (∀ n ∈ report.notices, s.Tells file.path n) ∧
    ∀ r : Reporter, (r.report report).2 = (report.under r.handler).map Outcome.code ∧
      ('[' ∉ s.origin.toList → ∀ n ∈ report.notices, r.handler n = none) := by
  intro src values ambient report
  have hreport : report = s.run file := congrArg (s.runFlagged file) hflag.eq_hasFaulty
  have htells : ∀ n ∈ report.notices, s.Tells file.path n := by
    rw [hreport]
    exact fun n hn => tells_run hn
  refine ⟨fun n hn => ⟨_, _, src.at_line_column n.start, ?_⟩, fun hnone => ?_, htells, fun r => ⟨r.report_eq report, ?_⟩⟩
  · rw [hreport, run_of_faulty hn]
    rfl
  · rw [← file.root.firstFaulty?_eq_find?] at hnone
    have hroot := hroot (Node.firstFaulty?_eq_none_iff.1 hnone)
    obtain ⟨hrivals, hreturns⟩ := result_run hs hnone hroot
    refine ⟨fun n hn => hroot.decode_text hn, (handler.result_cases report.notices report.result).imp_right ?_⟩
    rintro ⟨htaken, hunder⟩
    rw [hreport] at hunder ⊢
    refine ⟨hreport ▸ htaken, fun h => hunder.trans ?_, fun h => ?_⟩
    · rw [hrivals h]
      rfl
    · obtain ⟨o, ho, hcode⟩ := hreturns h
      refine ⟨o, hunder.trans ?_, hcode⟩
      rw [ho]
      rfl
  · exact fun horigin n hn => (htells n hn).handler_eq_none hs horigin r

/-- A file that imports values from one module twice and has a call to redirect. -/
def rivalFile : SourceText where
  code := "import \x7b a \x7d from \"src/lib.logger\";\nimport b from \"src/lib.logger\";\nconsole.error(e);\n"
  root :=
    ⟨"program", true, false, 0, 86, none,
      [⟨"import_statement", true, false, 0, 35, none,
          [⟨"import_clause", true, false, 7, 12, none,
            [⟨"named_imports", true, false, 7, 12, none,
              [⟨"import_specifier", true, false, 9, 10, none,
                [⟨"identifier", true, false, 9, 10, some "name", []⟩]⟩]⟩]⟩,
            ⟨"string", true, false, 18, 34, some "source", []⟩]⟩,
        ⟨"import_statement", true, false, 36, 67, none,
          [⟨"import_clause", true, false, 43, 44, none, [⟨"identifier", true, false, 43, 44, none, []⟩]⟩,
            ⟨"string", true, false, 50, 66, some "source", []⟩]⟩,
        ⟨"expression_statement", true, false, 68, 85, none,
          [Session.consoleCall 68 84 [⟨"identifier", true, false, 82, 83, none, []⟩]]⟩]⟩

/-- A file with a fault in its second line. -/
def faultyFile : SourceText where
  code := "f();\n  (\n"
  root :=
    ⟨"program", true, false, 0, 9, none,
      [⟨"expression_statement", true, false, 0, 4, none, []⟩, ⟨"ERROR", true, false, 7, 8, none, []⟩]⟩

/-- A reporter that prints what a run changes. -/
def consoleReporter : Reporter := ({} : Reporter).attach none 20

theorem run_result_rivals :
    check Given.empty = .ok {} ∧ rivalFile.root.Flagged false ∧ rivalFile.root.WellFormed rivalFile.code ∧
      (consoleReporter.report (runFlagged {} rivalFile false)).2 =
        .error (.failed (.rivalImports "src/lib.logger" 2 [1, 2])) ∧
      faultyFile.root.Flagged true ∧
      ∃ line column, (Bytes.ofString faultyFile.code).At 7 line column ∧
        (runFlagged {} faultyFile true).under consoleReporter.handler =
          .error (.failed (.malformed .ts line column)) := by
  have hs : check Given.empty = .ok {} := by decide +kernel
  have hflag : rivalFile.root.Flagged false := by decide +kernel
  have hfaulty : faultyFile.root.Flagged true := by decide +kernel
  have hroot : rivalFile.root.WellFormed rivalFile.code := by decide +kernel
  have hambient : ∃ c ∈ CallSite.all (Bytes.ofString rivalFile.code) (target {}) rivalFile.root,
      (ScopeTable.ofTree (Bytes.ofString rivalFile.code) rivalFile.root).resolve c.objectSite "console" = none := by
    decide +kernel
  obtain ⟨c, hc, hresolve⟩ := hambient
  obtain ⟨hsite, hshape⟩ := CallSite.mem_all_iff.1 hc
  have hlength : (Document.valueImports (Bytes.ofString rivalFile.code) rivalFile.root "src/lib.logger").length = 2 := by
    decide +kernel
  have hlines : ((Document.valueImports (Bytes.ofString rivalFile.code) rivalFile.root "src/lib.logger").map fun p =>
      (Bytes.ofString rivalFile.code).line p.1.node.start) = [1, 2] := by decide +kernel
  obtain ⟨-, hends, -, hreporters⟩ := run_result hs rivalFile false hflag (fun _ => hroot) consoleReporter.handler
  obtain ⟨hreport, htaken⟩ := hreporters consoleReporter
  refine ⟨hs, hflag, hroot, ?_, hfaulty, ?_⟩
  · rcases (hends (by decide +kernel)).2 with ⟨n, hn, reason, hrefused, -⟩ | ⟨-, hrivals, -⟩
    · cases hrefused.symm.trans (htaken (by decide) n hn)
    · rw [hreport, hrivals ⟨⟨c, hsite, hshape, hresolve⟩, hlength ▸ Nat.one_lt_two⟩]
      exact congrArg₂ (fun n lines => Except.error (Stop.failed (Failure.rivalImports "src/lib.logger" n lines)))
        hlength hlines
  · exact (run_result hs faultyFile true hfaulty (fun h => absurd h (by decide)) consoleReporter.handler).1
      ⟨"ERROR", true, false, 7, 8, none, []⟩ (by rfl)

/-- A run on a file without faults, that would return under no handler, ends under a reporter if the name of the module closes
a style that no tag opens. -/
theorem run_refused :
    check (Given.empty.set .origin (.text "[/x]")) = .ok { origin := "[/x]" } ∧ loneCall.root.Flagged false ∧
      loneCall.root.WellFormed loneCall.code ∧
      (∃ o, (runFlagged { origin := "[/x]" } loneCall false).result = .ok o) ∧
      ∃ fault, (consoleReporter.report (runFlagged { origin := "[/x]" } loneCall false)).2 =
        .error (.refused fault) := by
  have hnotices : (runFlagged { origin := "[/x]" } loneCall false).notices =
      [.redirected 1, .callsRedirected none 1 "logError", .importAdded none "logError" "[/x]"] := by decide +kernel
  have hresult : (runFlagged { origin := "[/x]" } loneCall false).result.toOption.isSome = true := by decide +kernel
  obtain ⟨fault, hfault⟩ := @Reporter.exists_handler_eq_some_of_unopened consoleReporter
    (.importAdded none "logError" "[/x]") "✅ Added 'logError' import from '" "'" (by decide) (by decide +kernel) (by decide)
  refine ⟨by decide +kernel, by decide +kernel, by decide +kernel, ?_, ?_⟩
  · cases ho : (runFlagged { origin := "[/x]" } loneCall false).result with
    | error e =>
      rw [ho] at hresult
      cases hresult
    | ok o => exact ⟨o, rfl⟩
  · rw [Reporter.report_eq]
    rcases Handler.result_cases consoleReporter.handler (runFlagged { origin := "[/x]" } loneCall false).notices
      (runFlagged { origin := "[/x]" } loneCall false).result with ⟨n, -, reason, -, hend⟩ | ⟨htaken, -⟩
    · exact ⟨reason, congrArg (Except.map Outcome.code) hend⟩
    · rw [hnotices] at htaken
      cases hfault.symm.trans (htaken _ (by decide))

end Settings
end CallRedirect
