import CallRedirect.Proofs.Redirection
import Mathlib.Algebra.BigOperators.Group.List.Basic
import Mathlib.Algebra.GroupWithZero.Nat

/-! # One target after another

Several targets can be redirected in one file, one after the other. Each run finds the calls of its target in the tree of
the file, which does not change, and records its replacements after those that are there. So replacements of one call
pile up, and replacements of several targets stand in each other's arguments. The text is the one in which every callee
is patched once, by the first target that aims at it.

* `Target.firstCallee?`: the callee that the first of some targets has for an object and a severity.
* `Session.redirectAll_recorded`: what several runs leave.
* `Session.renderBytes_targeted`: the text after them.
* `Session.patched_targeted_congr`: the first callees decide it.
* `Session.redirectAll_text`: all of that for a file as it was read. -/

namespace CallRedirect
set_option autoImplicit false

namespace Target

/-- The two aim at the same calls. -/
def Same (t u : Target) : Prop := t.object = u.object ∧ t.severity = u.severity

instance (t u : Target) : Decidable (t.Same u) := inferInstanceAs (Decidable (_ ∧ _))

/-- The callee of the first of some targets with this object and this severity. -/
def firstCallee? (ts : List Target) (object severity : String) : Option String :=
  (ts.find? fun t => t.object == object && t.severity == severity).map Target.callee

theorem firstCallee?_cons_of_same {t u : Target} (ts : List Target) (h : u.Same t) :
    firstCallee? (u :: ts) t.object t.severity = some u.callee := by
  simp [firstCallee?, h.1, h.2]

theorem firstCallee?_cons_of_not {t u : Target} (ts : List Target) (h : ¬ u.Same t) :
    firstCallee? (u :: ts) t.object t.severity = firstCallee? ts t.object t.severity := by
  unfold Same at h
  rw [firstCallee?, List.find?_cons_of_neg (by simpa using h), firstCallee?]

theorem exists_of_firstCallee? {ts : List Target} {t : Target} {callee : String}
    (h : firstCallee? ts t.object t.severity = some callee) : ∃ u ∈ ts, u.Same t := by
  obtain ⟨u, hu, -⟩ := Option.map_eq_some_iff.1 h
  exact ⟨u, List.mem_of_find?_eq_some hu, by simpa [Same] using List.find?_some hu⟩

theorem firstCallee?_of_mem {ts : List Target} {t : Target} (h : ∃ u ∈ ts, u.Same t) :
    ∃ callee, firstCallee? ts t.object t.severity = some callee := by
  obtain ⟨u, hu, hobject, hseverity⟩ := h
  have hsome : (ts.find? fun t' => t'.object == t.object && t'.severity == t.severity).isSome := by
    rw [List.find?_isSome]
    exact ⟨u, hu, by simp [hobject, hseverity]⟩
  obtain ⟨v, hv⟩ := Option.isSome_iff_exists.1 hsome
  exact ⟨v.callee, by rw [firstCallee?, hv, Option.map_some]⟩

end Target

namespace Session

/-- Redirects the calls of several targets, one after the other, and counts them for each. -/
def redirectAll : List Target → Session → Except Failure (List Nat × Session)
  | [], s => .ok ([], s)
  | t :: ts, s => do
    let (count, s) ← s.redirect t
    let (counts, s) ← redirectAll ts s
    return (count :: counts, s)

/-- The text after redirecting the calls of several targets. -/
def textAfter (ts : List Target) (s : Session) : Except Failure String := do
  let (_, s) ← s.redirectAll ts
  s.document.render

/-- The ambient calls of several targets, each with its target. -/
def targetedCalls (d : Document) (ts : List Target) : List (Target × CallSite) :=
  ts.flatMap fun t => (ambientCalls d t).map fun c => (t, c)

end Session

/-! ## A run on a document with replacements -/

namespace Document

/-- The replacements that are recorded can be carried out in the text. -/
structure Sound (code : String) (d : Document) : Prop where
  source : d.source = Bytes.ofString code
  proper : ∀ st ∈ d.statements, ∀ r ∈ st.replacements, r.Proper
  bounded : ∀ st ∈ d.statements, ∀ r ∈ st.replacements, r.Bounded code

theorem mem_mapStatements {f : Nat → Statement → Statement} {d : Document} {st : Statement}
    (h : st ∈ (d.mapStatements f).statements) : ∃ i, ∃ st' ∈ d.statements, st = f i st' := by
  obtain ⟨i, hi⟩ := List.mem_iff_getElem?.1 h
  rw [mapStatements, List.getElem?_mapIdx] at hi
  obtain ⟨st', hst', rfl⟩ := Option.map_eq_some_iff.1 hi
  exact ⟨i, st', List.mem_of_getElem? hst', rfl⟩

/-- How many replacements are recorded. -/
def replacementCount (d : Document) : Nat := (d.statements.map fun st => st.replacements.length).sum

theorem replacementCount_append (d : Document) (on : Nat → List Replacement) :
    (d.mapStatements fun i st => { st with replacements := st.replacements ++ on i }).replacementCount =
      d.replacementCount + ((List.range d.statements.length).map fun i => (on i).length).sum := by
  simp only [replacementCount, mapStatements]
  induction d.statements using List.reverseRecOn with
  | nil => rfl
  | append_singleton ss st ih =>
    simp only [List.mapIdx_concat, List.map_append, List.map_singleton, List.sum_append, List.sum_singleton, ih,
      List.length_append, List.length_singleton, List.range_succ]
    omega

end Document

namespace Session

theorem replaceIn_of_sound {code : String} {s : Session} {g : Nat × List Replacement} (h : s.document.Sound code)
    (hproper : ∀ r ∈ g.2, r.Proper) (hbounded : ∀ r ∈ g.2, r.Bounded code) :
    ∃ s', s.replaceIn g = .ok s' ∧ s'.document.Sound code := by
  have hpresent : ∀ r ∈ ((s.document.statements[g.1]?).map Statement.replacements).getD [],
      ∃ st ∈ s.document.statements, r ∈ st.replacements := by
    intro r hr
    cases hst : s.document.statements[g.1]? with
    | none => simp [hst] at hr
    | some st => exact ⟨st, List.mem_of_getElem? hst, by simpa [hst] using hr⟩
  have hwritable := @writable_of_proper code
    (((s.document.statements[g.1]?).map Statement.replacements).getD [] ++ g.2)
    (fun r hr => (List.mem_append.1 hr).elim
      (fun hr => by obtain ⟨st, hst, hr⟩ := hpresent r hr; exact h.proper st hst r hr) (hproper r))
    (fun r hr => (List.mem_append.1 hr).elim
      (fun hr => by obtain ⟨st, hst, hr⟩ := hpresent r hr; exact h.bounded st hst r hr) (hbounded r))
  obtain ⟨events, hevents⟩ := Failure.mapM_eq_ok fun r hr => hwritable r (List.mem_append_right _ hr)
  have hreplace : s.replaceIn g = .ok { s.noteAll events with
      document := s.document.modify g.1 fun st => { st with
        replacements := ((s.document.statements[g.1]?).map Statement.replacements).getD [] ++ g.2 } } := by
    rw [replaceIn, h.source, hevents]
    rfl
  refine ⟨_, hreplace, ?_⟩
  rw [replaceIn_eq_ok hreplace]
  refine ⟨h.source, ?_, ?_⟩
  · intro st hst r hr
    obtain ⟨i, st', hst', rfl⟩ := Document.mem_mapStatements hst
    split at hr
    · exact (List.mem_append.1 hr).elim (h.proper st' hst' r) (hproper r)
    · exact h.proper st' hst' r hr
  · intro st hst r hr
    obtain ⟨i, st', hst', rfl⟩ := Document.mem_mapStatements hst
    split at hr
    · exact (List.mem_append.1 hr).elim (h.bounded st' hst' r) (hbounded r)
    · exact h.bounded st' hst' r hr

theorem foldlM_replaceIn_of_sound {code : String} {s : Session} {gs : List (Nat × List Replacement)}
    (h : s.document.Sound code) (hproper : ∀ g ∈ gs, ∀ r ∈ g.2, r.Proper)
    (hbounded : ∀ g ∈ gs, ∀ r ∈ g.2, r.Bounded code) : ∃ s', gs.foldlM replaceIn s = .ok s' := by
  induction gs generalizing s with
  | nil => exact ⟨s, rfl⟩
  | cons g gs ih =>
    obtain ⟨s₁, hs₁, hsound⟩ :=
      replaceIn_of_sound h (hproper g List.mem_cons_self) (hbounded g List.mem_cons_self)
    obtain ⟨s₂, hs₂⟩ := ih hsound (fun g' hg' => hproper g' (List.mem_cons_of_mem g hg'))
      (fun g' hg' => hbounded g' (List.mem_cons_of_mem g hg'))
    refine ⟨s₂, ?_⟩
    rw [List.foldlM_cons, hs₁]
    exact hs₂

/-- What is recorded already does not keep a run from recording more. -/
theorem redirect_of_sound {code : String} {s : Session} {t : Target} (h : s.document.Sound code)
    (hproper : ∀ p ∈ placed s.document t, p.2.Proper) (hbounded : ∀ p ∈ placed s.document t, p.2.Bounded code) :
    ∃ s', s.redirect t = .ok ((placed s.document t).length, s') := by
  have hmem : ∀ g ∈ byIndex (placed s.document t), ∀ r ∈ g.2, ∃ p ∈ placed s.document t, p.2 = r := by
    intro g hg r hr
    rw [mem_byIndex hg] at hr
    obtain ⟨p, hp, rfl⟩ := List.mem_map.1 hr
    exact ⟨p, (List.mem_filter.1 hp).1, rfl⟩
  have hsound : (s.noteAll ((boundCalls s.document t).map fun p => inspection s.document.source t p.1 p.2)).document.Sound
      code := by
    rw [document_noteAll]
    exact h
  obtain ⟨s', hs'⟩ := @foldlM_replaceIn_of_sound code _ (byIndex (placed s.document t)) hsound
    (fun g hg r hr => by obtain ⟨p, hp, rfl⟩ := hmem g hg r hr; exact hproper p hp)
    (fun g hg r hr => by obtain ⟨p, hp, rfl⟩ := hmem g hg r hr; exact hbounded p hp)
  refine ⟨s'.tell (.redirected (placed s.document t).length), ?_⟩
  show (byIndex (placed s.document t)).foldlM replaceIn _ >>= _ = _
  rw [hs']
  rfl

/-! ## How much is recorded -/

theorem sum_fibres {l : List (Nat × Replacement)} {n : Nat} (h : ∀ p ∈ l, p.1 < n) :
    ((List.range n).map fun i => ((l.filter fun p => p.1 == i).map Prod.snd).length).sum = l.length := by
  have hone (k : Nat) : ((List.range n).map fun i => if k = i then 1 else 0).sum = if k < n then 1 else 0 := by
    clear h
    induction n with
    | zero => rfl
    | succ n ih =>
      rw [List.range_succ, List.map_append, List.sum_append, ih, List.map_singleton, List.sum_singleton]
      split <;> split <;> split <;> omega
  induction l with
  | nil => simp
  | cons p l ih =>
    have hcons (i : Nat) : (((p :: l).filter fun q => q.1 == i).map Prod.snd).length =
        (if p.1 = i then 1 else 0) + ((l.filter fun q => q.1 == i).map Prod.snd).length := by
      by_cases hi : p.1 = i <;> simp [hi]
      omega
    simp only [hcons]
    rw [List.sum_map_add, ih fun q hq => h q (List.mem_cons_of_mem p hq), hone, if_pos (h p List.mem_cons_self),
      List.length_cons]
    omega

/-- A run records one replacement for each call that it counts. -/
theorem replacementCount_redirect {t : Target} {s s' : Session} {n : Nat} (h : s.redirect t = .ok (n, s')) :
    s'.document.replacementCount = s.document.replacementCount + n := by
  obtain ⟨rfl, hdocument⟩ := redirect_eq_ok h
  rw [hdocument, Document.replacementCount_append]
  congr 1
  apply sum_fibres
  intro p hp
  obtain ⟨c, -, hc⟩ := List.mem_filterMap.1 hp
  obtain ⟨i, hi, rfl⟩ := Option.map_eq_some_iff.1 hc
  exact (List.findIdx?_eq_some_iff_getElem.1 hi).1

theorem replacementCount_redirectAll {ts : List Target} {s s' : Session} {counts : List Nat}
    (h : s.redirectAll ts = .ok (counts, s')) :
    s'.document.replacementCount = s.document.replacementCount + counts.sum := by
  induction ts generalizing s counts with
  | nil =>
    obtain ⟨rfl, rfl⟩ := Prod.mk.inj (Except.ok.inj h)
    simp
  | cons t ts ih =>
    obtain ⟨⟨n, s₁⟩, hs₁, h⟩ := Failure.bind_eq_ok_iff.1 h
    obtain ⟨⟨ns, s₂⟩, hs₂, h⟩ := Failure.bind_eq_ok_iff.1 h
    obtain ⟨rfl, rfl⟩ := Prod.mk.inj (Except.ok.inj h)
    rw [ih hs₂, replacementCount_redirect hs₁, List.sum_cons]
    omega

/-! ## Runs on one file -/

section File
variable {code : String} {root : Node} {ts : List Target}

/-- The document of the file with the replacements of some targets on its statements. -/
def afterTargets (src : Bytes) (root : Node) (ts : List Target) : Document :=
  (Document.ofItems src root).recorded fun j => ts.flatMap fun t => placedOn (.ofItems src root) t j

theorem afterTargets_nil (src : Bytes) (root : Node) : afterTargets src root [] = .ofItems src root := by
  rw [afterTargets, Document.recorded]
  refine Eq.trans (Document.mapStatements_congr fun i st hst => ?_) (Document.mapStatements_id _)
  rw [List.flatMap_nil, ← Document.fresh_ofItems src root st (List.mem_of_getElem? hst)]

theorem statementAt?_recorded (d : Document) (on : Nat → List Replacement) (offset : Nat) :
    (d.recorded on).statementAt? offset = d.statementAt? offset := by
  have hstands : (d.recorded on).statements.map (Statement.standsAt offset) =
      d.statements.map (Statement.standsAt offset) := by
    apply List.ext_getElem?
    intro i
    rw [Document.recorded, Document.mapStatements, List.getElem?_map, List.getElem?_mapIdx, List.getElem?_map]
    cases d.statements[i]? <;> rfl
  have hfind (ss : List Statement) :
      ss.findIdx? (Statement.standsAt offset) = (ss.map (Statement.standsAt offset)).findIdx? id := by
    rw [List.findIdx?_map]
    rfl
  rw [Document.statementAt?, Document.statementAt?, hfind, hfind, hstands]

theorem placed_afterTargets (src : Bytes) (t : Target) :
    placed (afterTargets src root ts) t = placed (.ofItems src root) t := by
  have hcalls : ambientCalls (afterTargets src root ts) t = ambientCalls (.ofItems src root) t := rfl
  rw [placed, hcalls, placed]
  simp only [afterTargets, statementAt?_recorded]

theorem mem_placed {d : Document} {t : Target} {p : Nat × Replacement} (hp : p ∈ placed d t) :
    ∃ c ∈ CallSite.all d.source t d.root, c.replacement t = p.2 := by
  obtain ⟨c, hc, hp⟩ := List.mem_filterMap.1 hp
  obtain ⟨i, -, rfl⟩ := Option.map_eq_some_iff.1 hp
  exact ⟨c, (List.mem_filter.1 hc).1, rfl⟩

theorem afterTargets_concat {s s' : Session} {t : Target} {n : Nat}
    (hs : s.document = afterTargets (Bytes.ofString code) root ts) (h : s.redirect t = .ok (n, s')) :
    s'.document = afterTargets (Bytes.ofString code) root (ts ++ [t]) := by
  rw [(redirect_eq_ok h).2, hs, afterTargets, Document.recorded, Document.mapStatements_mapStatements, afterTargets,
    Document.recorded]
  apply Document.mapStatements_congr
  intro j st _
  have hplaced : placedOn ((Document.ofItems (Bytes.ofString code) root).mapStatements fun i st =>
      { st with replacements := ts.flatMap fun t => placedOn (.ofItems (Bytes.ofString code) root) t i }) t j =
      placedOn (.ofItems (Bytes.ofString code) root) t j := by
    have hfound := @placed_afterTargets root ts (Bytes.ofString code) t
    rw [placedOn, placedOn, ← hfound]
    rfl
  rw [List.flatMap_append, List.flatMap_singleton, hplaced]

/-- The callees of the calls of all targets are proper. -/
def AllProper (src : Bytes) (root : Node) (ts : List Target) : Prop := ∀ t ∈ ts, ∀ c ∈ CallSite.all src t root, c.Proper

instance (src : Bytes) (root : Node) (ts : List Target) : Decidable (AllProper src root ts) :=
  inferInstanceAs (Decidable (∀ t ∈ ts, ∀ c ∈ CallSite.all src t root, c.Proper))

theorem sound_afterTargets (hroot : root.WellFormed code) (hproper : AllProper (Bytes.ofString code) root ts) :
    (afterTargets (Bytes.ofString code) root ts).Sound code := by
  have hcalls : ∀ st ∈ (afterTargets (Bytes.ofString code) root ts).statements, ∀ r ∈ st.replacements,
      ∃ t ∈ ts, ∃ c ∈ CallSite.all (Bytes.ofString code) t root, c.replacement t = r := by
    intro st hst r hr
    obtain ⟨j, st', -, rfl⟩ := Document.mem_mapStatements hst
    obtain ⟨t, ht, hr⟩ := List.mem_flatMap.1 hr
    obtain ⟨p, hp, rfl⟩ := List.mem_map.1 hr
    have hc := mem_placed (List.mem_filter.1 hp).1
    rw [Document.source_ofItems, Document.root_ofItems] at hc
    exact ⟨t, ht, hc⟩
  refine ⟨Document.source_ofItems _ _, ?_, ?_⟩
  · intro st hst r hr
    obtain ⟨t, ht, c, hc, rfl⟩ := hcalls st hst r hr
    exact CallSite.proper_replacement hroot.nested hc (hproper t ht c hc).nonempty t
  · intro st hst r hr
    obtain ⟨t, ht, c, hc, rfl⟩ := hcalls st hst r hr
    exact CallSite.bounded_replacement hroot hc t

/-- A run after others counts the calls that it would count in the file as it was read. -/
theorem redirect_afterTargets {s : Session} {t : Target} (hroot : root.WellFormed code)
    (hproper : AllProper (Bytes.ofString code) root ts) (ht : AllProper (Bytes.ofString code) root [t])
    (hs : s.document = afterTargets (Bytes.ofString code) root ts) :
    ∃ s', s.redirect t = .ok ((ambientCalls (.ofItems (Bytes.ofString code) root) t).length, s') ∧
      s'.document = afterTargets (Bytes.ofString code) root (ts ++ [t]) := by
  have hplaced : placed s.document t = placed (.ofItems (Bytes.ofString code) root) t := by
    rw [hs, placed_afterTargets]
  have hmem : ∀ p ∈ placed s.document t, ∃ c ∈ CallSite.all (Bytes.ofString code) t root, c.replacement t = p.2 := by
    intro p hp
    rw [hplaced] at hp
    have hc := mem_placed hp
    rwa [Document.source_ofItems, Document.root_ofItems] at hc
  have hredirect := redirect_of_sound (hs ▸ sound_afterTargets hroot hproper)
    (fun p hp => by
      obtain ⟨c, hc, heq⟩ := hmem p hp
      exact heq ▸ CallSite.proper_replacement hroot.nested hc (ht t List.mem_cons_self c hc).nonempty t)
    (fun p hp => by
      obtain ⟨c, hc, heq⟩ := hmem p hp
      exact heq ▸ CallSite.bounded_replacement hroot hc t)
  obtain ⟨s', hs'⟩ := hredirect
  rw [hplaced, length_placed hroot] at hs'
  exact ⟨s', hs', afterTargets_concat hs hs'⟩

theorem redirectAll_recorded {s : Session} {us : List Target} (hroot : root.WellFormed code)
    (hproper : AllProper (Bytes.ofString code) root (ts ++ us))
    (hs : s.document = afterTargets (Bytes.ofString code) root ts) :
    ∃ s', s.redirectAll us =
        .ok (us.map fun t => (ambientCalls (.ofItems (Bytes.ofString code) root) t).length, s') ∧
      s'.document = afterTargets (Bytes.ofString code) root (ts ++ us) := by
  induction us generalizing s ts with
  | nil => exact ⟨s, rfl, by rw [hs, List.append_nil]⟩
  | cons t us ih =>
    obtain ⟨s₁, hs₁, hdocument⟩ := redirect_afterTargets hroot
      (fun u hu => hproper u (List.mem_append_left _ hu))
      (fun u hu => hproper u (List.mem_append_right _ (List.mem_singleton.1 hu ▸ List.mem_cons_self))) hs
    obtain ⟨s₂, hs₂, hdocument₂⟩ := @ih (ts ++ [t]) s₁ (by rwa [List.append_assoc]) hdocument
    refine ⟨s₂, ?_, by rw [hdocument₂, List.append_assoc, List.singleton_append]⟩
    rw [redirectAll, hs₁]
    show redirectAll us s₁ >>= _ = _
    rw [hs₂]
    rfl

/-! ## The text after several runs -/

theorem mem_targetedCalls {src : Bytes} {p : Target × CallSite} :
    p ∈ targetedCalls (.ofItems src root) ts ↔ p.1 ∈ ts ∧ p.2 ∈ ambientCalls (.ofItems src root) p.1 := by
  rw [targetedCalls, List.mem_flatMap]
  constructor
  · rintro ⟨t, ht, hp⟩
    obtain ⟨c, hc, rfl⟩ := List.mem_map.1 hp
    exact ⟨ht, hc⟩
  · rintro ⟨ht, hc⟩
    exact ⟨p.1, ht, List.mem_map.2 ⟨p.2, hc, rfl⟩⟩

theorem proper_targetedCalls {src : Bytes} (hproper : AllProper src root ts) {p : Target × CallSite}
    (hp : p ∈ targetedCalls (.ofItems src root) ts) : p.2 ∈ CallSite.all src p.1 root ∧ p.2.Proper := by
  obtain ⟨ht, hc⟩ := mem_targetedCalls.1 hp
  have hc := (sublist_ambientCalls src root p.1).subset hc
  exact ⟨hc, hproper p.1 ht p.2 hc⟩

theorem flatMap_placedOn (src : Bytes) (j : Nat) :
    (ts.flatMap fun t => placedOn (.ofItems src root) t j) =
      ((targetedCalls (.ofItems src root) ts).filter fun p =>
        (Document.ofItems src root).statementAt? p.2.call.top.start == some j).map fun p => p.2.replacement p.1 := by
  rw [targetedCalls, List.filter_flatMap, List.map_flatMap]
  congr 1
  funext t
  rw [placedOn_eq, List.filter_map, List.map_map]
  rfl

/-- The patches of the callees of all calls, one target after the other. -/
def targetedPatches (d : Document) (ts : List Target) : List Patch :=
  ts.flatMap fun t => (ambientCalls d t).map (CallSite.patch t)

theorem targetedPatches_eq (d : Document) (ts : List Target) :
    targetedPatches d ts = (targetedCalls d ts).map fun p => p.2.patch p.1 := by
  rw [targetedPatches, targetedCalls, List.map_flatMap]
  simp only [List.map_map]
  rfl

theorem patch_targeted {src : Bytes} (hroot : root.WellFormed code) (hproper : AllProper src root ts) {p : Patch}
    (hp : p ∈ targetedPatches (.ofItems src root) ts) :
    p.start < p.stop ∧
      ∃ i ∈ Document.items root, i.isComment = false ∧ i.node.start ≤ p.start ∧ p.stop ≤ i.node.stop := by
  rw [targetedPatches_eq] at hp
  obtain ⟨q, hq, rfl⟩ := List.mem_map.1 hp
  obtain ⟨hc, hcproper⟩ := proper_targetedCalls hproper hq
  exact CallSite.patch_in_statement hroot hc hcproper q.1

theorem renderBytes_targeted (hroot : root.WellFormed code) (hproper : AllProper (Bytes.ofString code) root ts) :
    (afterTargets (Bytes.ofString code) root ts).renderBytes =
      .ok ((Bytes.ofString code).patched (targetedPatches (.ofItems (Bytes.ofString code) root) ts) 0
        (Bytes.ofString code).length) := by
  have hprints : (afterTargets (Bytes.ofString code) root ts).PrintsItems fun i =>
      (Bytes.ofString code).patched (targetedPatches (.ofItems (Bytes.ofString code) root) ts) i.node.start
        i.node.stop := by
    apply Document.PrintsItems.recorded
    · intro j g hg
      rw [flatMap_placedOn, targetedPatches_eq]
      exact splice_calls hroot (fun p hp => proper_targetedCalls hproper hp) hg
    · intro i hi hcomment
      exact patched_comment_of_inside hroot (fun p hp => patch_targeted hroot hproper hp) hi hcomment
  refine hprints.renderBytes_patched (Document.source_ofItems _ _) (Document.root_ofItems _ _) hroot.inOrder_children ?_
  intro p hp
  obtain ⟨hspan, i, hi, -, hinside⟩ := patch_targeted hroot hproper hp
  exact ⟨hspan, i, hi, hinside⟩

theorem isText_targeted (hroot : root.WellFormed code) (hproper : AllProper (Bytes.ofString code) root ts) :
    ((Bytes.ofString code).patched (targetedPatches (.ofItems (Bytes.ofString code) root) ts) 0
      (Bytes.ofString code).length).IsText := by
  have hcalls : ∀ r ∈ (targetedCalls (.ofItems (Bytes.ofString code) root) ts).map fun p => p.2.replacement p.1,
      ∃ t t' c, c ∈ CallSite.all (Bytes.ofString code) t root ∧ c.Proper ∧ c.replacement t' = r := by
    intro r hr
    obtain ⟨p, hp, rfl⟩ := List.mem_map.1 hr
    obtain ⟨hc, hcproper⟩ := proper_targetedCalls hproper hp
    exact ⟨p.1, p.1, p.2, hc, hcproper, rfl⟩
  have hbounded : ∀ r ∈ (targetedCalls (.ofItems (Bytes.ofString code) root) ts).map fun p => p.2.replacement p.1,
      r.Bounded code := by
    intro r hr
    obtain ⟨t, t', c, hc, -, rfl⟩ := hcalls r hr
    exact CallSite.bounded_replacement hroot hc t'
  have htext := Replacement.isText_patched (CallSite.laminar_of_proper hroot.nested hcalls) hbounded
    (fun r hr => .inl (Replacement.inside_iff.2 ⟨Nat.zero_le _, (hbounded r hr).stop.le_length⟩)) (Nat.zero_le _)
    (Bytes.boundary_zero code) (Bytes.boundary_length code)
  rw [List.map_map] at htext
  rw [targetedPatches_eq]
  exact htext

/-! ## The first callees decide -/

/-- Two lists of targets begin with the same callee for every object and severity. -/
def Agree (ts us : List Target) : Prop :=
  ∀ object severity, Target.firstCallee? ts object severity = Target.firstCallee? us object severity

theorem all_of_same {t u : Target} (h : t.Same u) (src : Bytes) (root : Node) :
    CallSite.all src t root = CallSite.all src u root := by
  obtain ⟨object, severity, callee⟩ := t
  obtain ⟨rfl, rfl⟩ := h
  rfl

theorem ambientCalls_of_same {t u : Target} (h : t.Same u) (d : Document) : ambientCalls d t = ambientCalls d u := by
  obtain ⟨object, severity, callee⟩ := t
  obtain ⟨rfl, rfl⟩ := h
  rfl

theorem same_of_isCallOf {src : Bytes} {t u : Target} {c : CallSite} (ht : c.IsCallOf src t) (hu : c.IsCallOf src u) :
    t.Same u := by
  obtain ⟨p, hp, -, hseverity⟩ := ht.property
  obtain ⟨q, hq, -, hseverity'⟩ := hu.property
  obtain rfl := Option.some.inj (hp.symm.trans hq)
  exact ⟨ht.objectName.2.symm.trans hu.objectName.2, hseverity.symm.trans hseverity'⟩

/-- Calls that start at one place are one call, and so of one object and severity. -/
theorem same_of_start {src : Bytes} {t u : Target} {a b : CallSite} (hroot : root.Nested)
    (ha : a ∈ CallSite.all src t root) (hb : b ∈ CallSite.all src u root) (hpa : a.Proper) (hpb : b.Proper)
    (hstart : a.call.node.start = b.call.node.start) : t.Same u := by
  have hspan (c : CallSite) (v : Target) (hc : c ∈ CallSite.all src v root) (hpc : c.Proper) :
      c.call.node.start < c.callee.stop ∧ c.callee.stop ≤ c.call.node.stop :=
    ⟨hpc.start ▸ hpc.nonempty, (CallSite.callee_span hroot hc).2⟩
  have hspana := hspan a t ha hpa
  have hspanb := hspan b u hb hpb
  rcases CallSite.eq_or_before hroot ha hb hpa hpb with rfl | hbefore | hbefore
  · exact same_of_isCallOf (CallSite.mem_all_iff.1 ha).2 (CallSite.mem_all_iff.1 hb).2
  · unfold CallSite.Before at hbefore
    omega
  · unfold CallSite.Before at hbefore
    omega

theorem allProper_of_agree {src : Bytes} {us : List Target} (hproper : AllProper src root ts) (h : Agree ts us) :
    AllProper src root us := by
  intro u hu c hc
  obtain ⟨callee, hcallee⟩ := Target.firstCallee?_of_mem ⟨u, hu, rfl, rfl⟩
  rw [← h] at hcallee
  obtain ⟨t, ht, hsame⟩ := Target.exists_of_firstCallee? hcallee
  exact hproper t ht c (all_of_same hsame src root ▸ hc)

/-- At the start of a call the function of the first target stands that aims at it. -/
theorem find?_targetedPatches {src : Bytes} {t : Target} {c : CallSite} (hroot : root.Nested)
    (hproper : AllProper src root ts) (hc : c ∈ ambientCalls (.ofItems src root) t) (hcproper : c.Proper) :
    ((targetedPatches (.ofItems src root) ts).find? fun p => p.start == c.call.node.start).map Patch.text =
      (Target.firstCallee? ts t.object t.severity).map Bytes.ofString := by
  induction ts with
  | nil => rfl
  | cons u us ih =>
    have hus : AllProper src root us := fun v hv => hproper v (List.mem_cons_of_mem u hv)
    rw [targetedPatches, List.flatMap_cons, List.find?_append, List.find?_map]
    by_cases hsame : u.Same t
    · -- the call is one of the calls of `u`, so a patch of `u` comes first
      have hmem : c ∈ ambientCalls (.ofItems src root) u := ambientCalls_of_same hsame _ ▸ hc
      have hsome : ((ambientCalls (.ofItems src root) u).find?
          ((fun p => p.start == c.call.node.start) ∘ CallSite.patch u)).isSome := by
        rw [List.find?_isSome]
        exact ⟨c, hmem, beq_self_eq_true c.call.node.start⟩
      obtain ⟨a, ha⟩ := Option.isSome_iff_exists.1 hsome
      rw [ha, Target.firstCallee?_cons_of_same us hsame]
      rfl
    · have hnone : ((ambientCalls (.ofItems src root) u).find?
          ((fun p => p.start == c.call.node.start) ∘ CallSite.patch u)) = none := by
        rw [List.find?_eq_none]
        intro a ha hstart
        have ha := (sublist_ambientCalls src root u).subset ha
        exact hsame (same_of_start hroot ha ((sublist_ambientCalls src root t).subset hc)
          (hproper u List.mem_cons_self a ha) hcproper (beq_iff_eq.1 hstart))
      rw [hnone, Target.firstCallee?_cons_of_not us hsame]
      exact ih hus

theorem covers_targetedPatches {src : Bytes} {us : List Target} {i : Nat} (h : Agree ts us)
    (hcovers : ∃ p ∈ targetedPatches (.ofItems src root) ts, p.covers i = true) :
    ∃ p ∈ targetedPatches (.ofItems src root) us, p.covers i = true := by
  obtain ⟨p, hp, hcovers⟩ := hcovers
  obtain ⟨t, ht, hp⟩ := List.mem_flatMap.1 hp
  obtain ⟨c, hc, rfl⟩ := List.mem_map.1 hp
  obtain ⟨callee, hcallee⟩ := Target.firstCallee?_of_mem ⟨t, ht, rfl, rfl⟩
  rw [h] at hcallee
  obtain ⟨u, hu, hsame⟩ := Target.exists_of_firstCallee? hcallee
  refine ⟨c.patch u, List.mem_flatMap.2 ⟨u, hu, ?_⟩, hcovers⟩
  exact List.mem_map_of_mem (ambientCalls_of_same hsame (.ofItems src root) ▸ hc)

theorem patched_targeted_congr {src : Bytes} {us : List Target} (hroot : root.Nested) (hproper : AllProper src root ts)
    (h : Agree ts us) (start stop : Nat) :
    src.patched (targetedPatches (.ofItems src root) ts) start stop =
      src.patched (targetedPatches (.ofItems src root) us) start stop := by
  have husproper := allProper_of_agree hproper h
  apply Bytes.patched_congr
  intro i _ _
  have hany : ((targetedPatches (.ofItems src root) ts).any fun p => p.covers i) =
      (targetedPatches (.ofItems src root) us).any fun p => p.covers i := by
    rw [Bool.eq_iff_iff, List.any_eq_true, List.any_eq_true]
    exact ⟨covers_targetedPatches h, covers_targetedPatches fun object severity => (h object severity).symm⟩
  have hfind : ((targetedPatches (.ofItems src root) ts).find? fun p => p.start == i).map Patch.text =
      ((targetedPatches (.ofItems src root) us).find? fun p => p.start == i).map Patch.text := by
    by_cases hcall : ∃ t c, c ∈ ambientCalls (.ofItems src root) t ∧ c.Proper ∧ c.call.node.start = i
    · obtain ⟨t, c, hc, hcproper, rfl⟩ := hcall
      rw [find?_targetedPatches hroot hproper hc hcproper, find?_targetedPatches hroot husproper hc hcproper, h]
    · have hnone (vs : List Target) (hvs : AllProper src root vs) :
          ((targetedPatches (.ofItems src root) vs).find? fun p => p.start == i) = none := by
        rw [List.find?_eq_none]
        intro p hp hstart
        obtain ⟨t, ht, hp⟩ := List.mem_flatMap.1 hp
        obtain ⟨c, hc, rfl⟩ := List.mem_map.1 hp
        exact hcall ⟨t, c, hc, hvs t ht c ((sublist_ambientCalls src root t).subset hc), beq_iff_eq.1 hstart⟩
      rw [hnone ts hproper, hnone us husproper]
  rw [Bytes.patchedAt, Bytes.patchedAt, hfind, hany]

/-! ## Swapping and repeating -/

theorem firstCallee?_append (ts us : List Target) (object severity : String) :
    Target.firstCallee? (ts ++ us) object severity =
      (Target.firstCallee? ts object severity).or (Target.firstCallee? us object severity) := by
  rw [Target.firstCallee?, List.find?_append, Option.map_or]
  rfl

theorem agree_swap {t u : Target} (before after : List Target) (h : ¬ t.Same u) :
    Agree (before ++ t :: u :: after) (before ++ u :: t :: after) := by
  intro object severity
  rw [firstCallee?_append, firstCallee?_append]
  congr 1
  simp only [Target.firstCallee?, List.find?_cons]
  split <;> split <;> simp_all [Target.Same]

theorem agree_repeat {t u : Target} {before : List Target} (after : List Target) (hu : u ∈ before) (h : u.Same t) :
    Agree (before ++ t :: after) (before ++ after) := by
  intro object severity
  rw [firstCallee?_append, firstCallee?_append]
  by_cases ht : t.object = object ∧ t.severity = severity
  · obtain ⟨rfl, rfl⟩ := ht
    obtain ⟨callee, hcallee⟩ := Target.firstCallee?_of_mem ⟨u, hu, h⟩
    rw [hcallee, Option.some_or, Option.some_or]
  · rw [Target.firstCallee?, Target.firstCallee?, Target.firstCallee?, List.find?_cons_of_neg (by simpa using ht)]

/-- What several runs do in a file as it was read. -/
theorem textAfter_eq {s : Session} (hroot : root.WellFormed code) (hproper : AllProper (Bytes.ofString code) root ts)
    (hs : s.document = .ofItems (Bytes.ofString code) root) :
    ∃ s' text, s.redirectAll ts =
        .ok (ts.map fun t => (ambientCalls (.ofItems (Bytes.ofString code) root) t).length, s') ∧
      s.textAfter ts = .ok text ∧ s'.document.render = .ok text ∧
      Bytes.ofString text = (Bytes.ofString code).patched
        (targetedPatches (.ofItems (Bytes.ofString code) root) ts) 0 (Bytes.ofString code).length := by
  obtain ⟨s', hs', hdocument⟩ := @redirectAll_recorded code root [] s ts hroot hproper
    (hs.trans (afterTargets_nil _ _).symm)
  obtain ⟨text, hdecode, htext⟩ := (isText_targeted hroot hproper).decode
  have hrender : s'.document.render = .ok text := by
    rw [hdocument, List.nil_append, Document.render, renderBytes_targeted hroot hproper]
    exact hdecode
  refine ⟨s', text, hs', ?_, hrender, htext⟩
  rw [textAfter, hs']
  exact hrender

theorem textAfter_congr {s : Session} {us : List Target} (hroot : root.WellFormed code)
    (hproper : AllProper (Bytes.ofString code) root ts) (hs : s.document = .ofItems (Bytes.ofString code) root)
    (h : Agree ts us) : s.textAfter us = s.textAfter ts := by
  obtain ⟨-, text, -, hts, -, htext⟩ := textAfter_eq hroot hproper hs
  obtain ⟨-, text', -, hus, -, htext'⟩ := textAfter_eq hroot (allProper_of_agree hproper h) hs
  rw [← patched_targeted_congr hroot.nested hproper h, ← htext] at htext'
  have hdecode := congrArg Bytes.decode htext'
  rw [Bytes.decode_ofString, Bytes.decode_ofString] at hdecode
  rw [hts, hus, hdecode]

theorem replacementCount_ofItems (src : Bytes) (root : Node) : (Document.ofItems src root).replacementCount = 0 := by
  rw [Document.replacementCount, List.sum_eq_zero]
  intro n hn
  obtain ⟨st, hst, rfl⟩ := List.mem_map.1 hn
  rw [Document.fresh_ofItems src root st hst, List.length_nil]

end File

/-- Redirecting several targets in a file as it was read counts for each the calls that it would count alone, and records
as many replacements. The text is decided by the callee of the first target for each object and severity: so targets of
different calls can be swapped, and one that aims at the calls of an earlier one changes nothing. -/
theorem redirectAll_text (dialect : Dialect) (code : String) (root : Node) (hfault : root.firstFaulty? = none)
    (hroot : root.WellFormed code) :
    ∃ (d : Document) (calls : Target → List CallSite),
      Document.ofTree dialect (Bytes.ofString code) root = .ok d ∧
      (∀ t c, c ∈ calls t ↔ c.call ∈ root.preorder [] ∧ c.IsCallOf (Bytes.ofString code) t ∧
        (ScopeTable.ofTree (Bytes.ofString code) root).resolve c.objectSite t.object = none) ∧
      (∀ t, AllProper (Bytes.ofString code) root [t] → (calls t).Pairwise fun a b =>
        a.call.node.start < a.callee.stop ∧ a.callee.stop ≤ b.call.node.start) ∧
      ∀ (s : Session) (ts : List Target), s.document = d → AllProper (Bytes.ofString code) root ts →
        ∃ s' text, s.redirectAll ts = .ok (ts.map fun t => (calls t).length, s') ∧ s'.document.render = .ok text ∧
          s.textAfter ts = .ok text ∧
          Bytes.ofString text = (Bytes.ofString code).patched
            (ts.flatMap fun t => (calls t).map (CallSite.patch t)) 0 (Bytes.ofString code).length ∧
          s'.document.replacementCount = (ts.map fun t => (calls t).length).sum ∧
          (∀ us, Agree ts us → s.textAfter us = .ok text) ∧
          (∀ before t u after, ts = before ++ t :: u :: after → ¬ t.Same u →
            s.textAfter (before ++ u :: t :: after) = .ok text) ∧
          ∀ before t after, ts = before ++ t :: after → (∃ u ∈ before, u.Same t) →
            s.textAfter (before ++ after) = .ok text := by
  refine ⟨_, ambientCalls (.ofItems (Bytes.ofString code) root), Document.ofTree_eq_ok hfault,
    fun t c => mem_ambientCalls_iff,
    fun t ht => pairwise_callee_ambientCalls hroot (ht t List.mem_cons_self), fun s ts hs hproper => ?_⟩
  obtain ⟨s', text, hs', hts, hrender, htext⟩ := textAfter_eq hroot hproper hs
  have hagree (us : List Target) (h : Agree ts us) : s.textAfter us = .ok text :=
    (textAfter_congr hroot hproper hs h).trans hts
  refine ⟨s', text, hs', hrender, hts, htext, ?_, hagree, ?_, ?_⟩
  · rw [replacementCount_redirectAll hs', hs, replacementCount_ofItems, Nat.zero_add]
  · rintro before t u after rfl hne
    exact hagree _ (agree_swap before after hne)
  · rintro before t after rfl ⟨u, hu, hsame⟩
    exact hagree _ (agree_repeat after hu hsame)

/-- The tree of `console.error(log.warn(console.error(1)));`. -/
def alternatingCalls : Node :=
  ⟨"program", true, false, 0, 42, none,
    [⟨"expression_statement", true, false, 0, 42, none,
      [consoleCall 0 41
        [⟨"call_expression", true, false, 14, 40, none,
          [⟨"member_expression", true, false, 14, 22, some "function",
            [⟨"identifier", true, false, 14, 17, some "object", []⟩,
              ⟨"property_identifier", true, false, 18, 22, some "property", []⟩]⟩,
            ⟨"arguments", true, false, 22, 40, some "arguments",
              [consoleCall 23 39 [⟨"number", true, false, 37, 38, none, []⟩]]⟩]⟩]]⟩]⟩

/-- The third run aims at the calls of the first, around and inside the call of the second. -/
theorem redirectAll_text_alternating :
    ∃ s s' : Session,
      Document.ofTree .js (Bytes.ofString "console.error(log.warn(console.error(1)));") alternatingCalls =
        .ok s.document ∧
      s.redirectAll [⟨"console", "error", "a"⟩, ⟨"log", "warn", "b"⟩, ⟨"console", "error", "c"⟩] = .ok ([2, 1, 2], s') ∧
      s'.document.replacementCount = 5 ∧ s'.document.render = .ok "a(b(a(1)));" ∧
      s.textAfter [⟨"log", "warn", "b"⟩, ⟨"console", "error", "a"⟩] = .ok "a(b(a(1)));" := by
  obtain ⟨d, calls, hd, -, -, h⟩ := redirectAll_text .js "console.error(log.warn(console.error(1)));" alternatingCalls
    (by decide +kernel) (by decide +kernel)
  obtain ⟨s', text, hs', hrender, -, -, -, hagree, -, -⟩ := h ⟨d, {}, []⟩
    [⟨"console", "error", "a"⟩, ⟨"log", "warn", "b"⟩, ⟨"console", "error", "c"⟩] rfl (by decide +kernel)
  have hrun : ((Document.ofTree .js (Bytes.ofString "console.error(log.warn(console.error(1)));")
      alternatingCalls).toOption.bind fun d =>
        (redirectAll [⟨"console", "error", "a"⟩, ⟨"log", "warn", "b"⟩, ⟨"console", "error", "c"⟩] ⟨d, {}, []⟩).toOption.map
          fun r => (r.1, r.2.document.replacementCount, r.2.document.render.toOption)) =
      some ([2, 1, 2], 5, some "a(b(a(1)));") := by
    decide +kernel
  rw [hd] at hrun
  simp only [Except.toOption, Option.bind_some, hs', hrender, Option.map_some, Option.some.injEq, Prod.mk.injEq] at hrun
  obtain ⟨hcounts, hcount, rfl⟩ := hrun
  refine ⟨⟨d, {}, []⟩, s', hd, hcounts ▸ hs', hcount, hrender, hagree _ fun object severity => ?_⟩
  exact (@agree_repeat ⟨"console", "error", "c"⟩ _ [⟨"console", "error", "a"⟩, ⟨"log", "warn", "b"⟩] [] List.mem_cons_self
    (by decide) object severity).trans (agree_swap [] [] (by decide) object severity)

end Session
end CallRedirect
