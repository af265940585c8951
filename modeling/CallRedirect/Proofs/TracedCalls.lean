import CallRedirect.Proofs.Retention
import CallRedirect.Proofs.Tracing

/-! # The trace and the text of a run agree

A run records each call that it redirects with the text it had and the text it gets. The new text is worked out from the
statement that holds the call, before any import is written. It is nevertheless the text that stands in the place of the
call at the end, with every call in its arguments redirected.

* `CallSite.render_eq_edited`: the recorded text, from the cuts in the call.
* `Document.Rewritten.cuts_around`: the cuts of the whole text, before the call, in it and behind it.
* `Settings.run_trace`: what a run that succeeds has recorded. -/

namespace CallRedirect
set_option autoImplicit false

namespace CallSite
variable {code : String} {src : Bytes} {t : Target} {root : Node} {calls : List CallSite} {c : CallSite}

/-! ## The calls in a call -/

/-- The span of a call lies between two offsets. -/
def inside (start stop : Nat) (b : CallSite) : Bool := start ≤ b.call.node.start && b.call.node.stop ≤ stop

theorem inside_iff {start stop : Nat} {b : CallSite} :
    b.inside start stop = true ↔ start ≤ b.call.node.start ∧ b.call.node.stop ≤ stop := by
  simp [inside]

/-- The cuts that redirecting makes in the calls between two offsets. -/
def cutsWithin (t : Target) (calls : List CallSite) (start stop : Nat) : List Patch :=
  (calls.filter (inside start stop)).map (patch t)

section
variable (hroot : root.Nested) (hcalls : calls.Sublist (all src t root)) (hproper : ∀ c ∈ all src t root, c.Proper)
include hroot hcalls hproper

theorem span_callee {b : CallSite} (hb : b ∈ calls) :
    b.call.node.start < b.callee.stop ∧ b.callee.stop ≤ b.call.node.stop :=
  callee_reach hroot (hcalls.subset hb) (hproper b (hcalls.subset hb))

theorem pairwise_patches : (calls.map (patch t)).Pairwise Patch.Before := by
  rw [List.pairwise_map]
  refine (pairwise_callee hroot hproper hcalls).imp_of_mem fun _ hb h => ?_
  exact ⟨h.1, h.2, (span_callee hroot hcalls hproper hb).1⟩

/-- A callee that is replaced stands before a call, behind it, or in it. -/
theorem apart_or_inside {b : CallSite} (hb : b ∈ calls) (hc : c ∈ calls) :
    (b.patch t).stop ≤ c.call.node.start ∨ c.call.node.stop ≤ (b.patch t).start ∨
      b.inside c.call.node.start c.call.node.stop = true := by
  have hspan := span_callee hroot hcalls hproper hb
  have hspan' := span_callee hroot hcalls hproper hc
  have hb := hcalls.subset hb
  have hc := hcalls.subset hc
  rw [inside_iff]
  rcases eq_or_before hroot hb hc (hproper b hb) (hproper c hc) with rfl | (hbehind | hinside) | (hbehind | hinside)
  · exact .inr (.inr ⟨Nat.le_refl _, Nat.le_refl _⟩)
  · exact .inl (Nat.le_trans hspan.2 hbehind)
  · exact .inl hinside.1
  · exact .inr (.inl hbehind)
  · exact .inr (.inr ⟨Nat.le_trans (Nat.le_of_lt hspan'.1) hinside.1, hinside.2⟩)

theorem span_cutsWithin {start stop : Nat} {p : Patch} (hp : p ∈ cutsWithin t calls start stop) :
    start ≤ p.start ∧ p.start < p.stop ∧ p.stop ≤ stop := by
  obtain ⟨b, hb, rfl⟩ := List.mem_map.1 hp
  obtain ⟨hb, hinside⟩ := List.mem_filter.1 hb
  have hspan := span_callee hroot hcalls hproper hb
  have hinside := inside_iff.1 hinside
  exact ⟨hinside.1, hspan.1, Nat.le_trans hspan.2 hinside.2⟩

theorem pairwise_cutsWithin (start stop : Nat) : (cutsWithin t calls start stop).Pairwise Patch.Before :=
  (pairwise_patches hroot hcalls hproper).sublist (List.filter_sublist.map _)

theorem ordered_cutsWithin {start stop : Nat} (hle : start ≤ stop) :
    Patch.Ordered start stop (cutsWithin t calls start stop) := by
  refine Patch.ordered_of_pairwise hle ((pairwise_cutsWithin hroot hcalls hproper start stop).imp fun h => h.2.1) ?_
  intro p hp
  have hspan := span_cutsWithin hroot hcalls hproper hp
  exact ⟨hspan.1, Nat.le_of_lt hspan.2.1, hspan.2.2⟩

/-- The calls in a call are the call itself, and those in its arguments. -/
theorem filter_inside (hc : c ∈ calls) :
    calls.filter (inside c.call.node.start c.call.node.stop) =
      c :: calls.filter (inside c.callee.stop c.call.node.stop) := by
  have hspan {b : CallSite} (hb : b ∈ calls) := span_callee hroot hcalls hproper hb
  have hpairwise := (pairwise_before hroot hproper).sublist hcalls
  obtain ⟨upper, lower, rfl⟩ := List.append_of_mem hc
  obtain ⟨-, hpairwise, hbefore⟩ := List.pairwise_append.1 hpairwise
  have hupper (start : Nat) (hstart : c.call.node.start ≤ start) :
      upper.filter (inside start c.call.node.stop) = [] := by
    rw [List.filter_eq_nil_iff]
    intro b hb
    have hwidth := hspan (List.mem_append_left _ hb)
    rw [inside_iff]
    rcases hbefore b hb c List.mem_cons_self with hbehind | hinside <;> omega
  have hself : c.inside c.call.node.start c.call.node.stop = true := inside_iff.2 ⟨Nat.le_refl _, Nat.le_refl _⟩
  have hnotself : ¬ c.inside c.callee.stop c.call.node.stop = true := by
    have hwidth := hspan hc
    rw [inside_iff]
    omega
  rw [List.filter_append, List.filter_append, hupper _ (Nat.le_refl _), hupper _ (Nat.le_of_lt (hspan hc).1),
    List.filter_cons_of_pos hself, List.filter_cons_of_neg hnotself, List.nil_append, List.nil_append]
  congr 1
  apply List.filter_congr
  intro b hb
  have hwidth := hspan hc
  rw [Bool.eq_iff_iff, inside_iff, inside_iff]
  rcases (List.pairwise_cons.1 hpairwise).1 b hb with hbehind | hinside <;> omega

/-- No other callee that is replaced reaches into the arguments of a call. -/
theorem apart_args {b : CallSite} (hb : b ∈ calls) (hc : c ∈ calls)
    (hnot : b.inside c.callee.stop c.call.node.stop = false) :
    (b.patch t).start < (b.patch t).stop ∧
      ((b.patch t).stop ≤ c.callee.stop ∨ c.call.node.stop ≤ (b.patch t).start) := by
  have hspan := span_callee hroot hcalls hproper hb
  have hspan' := span_callee hroot hcalls hproper hc
  have hb := hcalls.subset hb
  have hc := hcalls.subset hc
  refine ⟨hspan.1, ?_⟩
  rw [← Bool.not_eq_true, inside_iff] at hnot
  rcases eq_or_before hroot hb hc (hproper b hb) (hproper c hc) with rfl | (hbefore | hinside) | (hbehind | hinside)
  · exact .inl (Nat.le_refl _)
  · exact .inl (Nat.le_trans hspan.2 (Nat.le_trans hbefore (Nat.le_of_lt hspan'.1)))
  · exact .inl (Nat.le_trans hinside.1 (Nat.le_of_lt hspan'.1))
  · exact .inr hbehind
  · exact absurd hinside hnot

/-- What becomes of a call, from the cuts in it. -/
theorem edited_cutsWithin (hc : c ∈ calls) :
    src.edited c.call.node.start c.call.node.stop (cutsWithin t calls c.call.node.start c.call.node.stop) =
      Bytes.ofString t.callee ++ src.patched (calls.map (patch t)) c.callee.stop c.call.node.stop := by
  have hspan := span_callee hroot hcalls hproper hc
  have hargs := ordered_cutsWithin hroot hcalls hproper hspan.2
  have hspans := fun p hp => (@span_cutsWithin _ _ _ _ hroot hcalls hproper c.callee.stop c.call.node.stop p hp).2.1
  rw [← Bytes.patched_filter fun b hb hnot => apart_args hroot hcalls hproper hb hc hnot]
  rw [cutsWithin, filter_inside hroot hcalls hproper hc, List.map_cons, Bytes.edited]
  show src.slice c.call.node.start c.call.node.start ++ Bytes.ofString t.callee ++ src.edited c.callee.stop _ _ = _
  rw [Bytes.slice_self, List.nil_append, ← cutsWithin, ← Bytes.patched_eq_edited hargs hspans]

end

/-- The text that is recorded for a call is made of the cuts in it. -/
theorem render_eq_edited (hroot : root.WellFormed code) (hproper : ∀ c ∈ all src t root, c.Proper)
    (hc : c ∈ Session.ambientCalls (.ofItems src root) t) {j : Nat}
    (hplaced : c.replacement t ∈ Session.placedOn (.ofItems src root) t j) :
    (c.replacement t).render src (Session.placedOn (.ofItems src root) t j) =
      some (src.edited c.call.node.start c.call.node.stop
        (cutsWithin t (Session.ambientCalls (.ofItems src root) t) c.call.node.start c.call.node.stop)) := by
  have hcalls := Session.sublist_ambientCalls src root t
  rw [edited_cutsWithin hroot.nested hcalls hproper hc]
  rw [Session.placedOn_eq] at hplaced ⊢
  generalize Session.ambientCalls (.ofItems src root) t = calls at hc hcalls hplaced ⊢
  -- the call stands in the statement, so the calls of other statements are apart from it
  obtain ⟨c', hc', hsame⟩ := List.mem_map.1 hplaced
  obtain ⟨hc', hat'⟩ := List.mem_filter.1 hc'
  obtain ⟨k, g, hg, hat, hstart, hstop⟩ := exists_statement hroot (hcalls.subset hc')
  obtain rfl : k = j := Option.some.inj (hat.symm.trans (beq_iff_eq.1 hat'))
  have hstart' : c'.call.node.start = c.call.node.start := congrArg Replacement.start hsame
  have hstop' : c'.call.node.stop = c.call.node.stop := congrArg Replacement.stop hsame
  have hspan := span_callee hroot.nested hcalls hproper hc
  have helsewhere : ∀ b ∈ calls, ((Document.ofItems src root).statementAt? b.call.top.start == some k) = false →
      (b.patch t).start < (b.patch t).stop ∧
        ((b.patch t).stop ≤ c.callee.stop ∨ c.call.node.stop ≤ (b.patch t).start) := by
    intro b hb hnot
    have hwidth := span_callee hroot.nested hcalls hproper hb
    have hapart := inside_or_apart hroot (hcalls.subset hb) hg
    rw [if_neg (by simpa using hnot)] at hapart
    refine ⟨hwidth.1, ?_⟩
    show b.callee.stop ≤ c.callee.stop ∨ c.call.node.stop ≤ b.call.node.start
    omega
  have hlaminar := laminar_replacements hroot.nested hproper
    ((List.filter_sublist (p := fun c => (Document.ofItems src root).statementAt? c.call.top.start == some k)).trans
      hcalls) t
  have hargs : Replacement.splice src _ c.callee.stop c.call.node.stop = _ :=
    Replacement.splice_eq_patched hlaminar (hlaminar.clean_args hplaced) hspan.2
  rw [← Bytes.patched_filter helsewhere, Replacement.render]
  show (Replacement.splice src _ c.callee.stop c.call.node.stop).map _ = _
  rw [hargs, List.map_map]
  rfl

end CallSite

/-! ## The cuts of the whole text -/

namespace Document
variable {code : String} {root : Node} {t : Target} {calls : List CallSite} {merged : Option Patch} {text : Bytes}
  {cuts : List Patch} {c : CallSite}

section
variable (h : Rewritten (Bytes.ofString code) root (calls.map (CallSite.patch t)) merged text cuts)
  (hroot : root.WellFormed code) (hcalls : calls.Sublist (CallSite.all (Bytes.ofString code) t root))
  (hproper : ∀ c ∈ CallSite.all (Bytes.ofString code) t root, c.Proper)
  (hmerged : ∀ q ∈ merged, ∃ n ∈ root.children, (∀ m ∈ n.nodes, m.kind ≠ "call_expression") ∧
    q.start = n.start ∧ q.stop = n.stop)
include hroot hcalls hmerged

/-- An import without calls is apart from every call. -/
theorem merged_apart (hc : c ∈ calls) {q : Patch} (hq : q ∈ merged) :
    q.stop ≤ c.call.node.start ∨ c.call.node.stop ≤ q.start := by
  obtain ⟨n, hn, -, hbelow⟩ := CallSite.exists_child hroot (hcalls.subset hc)
  have hcn := Node.node_mem_nodes hbelow
  have hspan := hroot.nested.span_in_child hn hcn
  obtain ⟨m, hm, hnone, hstart, hstop⟩ := hmerged q hq
  rcases (hroot.nested root root.self_mem_nodes).eq_or_apart hn hm with rfl | hbehind | hbefore
  · exact absurd (CallSite.mem_all_iff.1 (hcalls.subset hc)).2.call (hnone _ hcn)
  · right
    omega
  · left
    omega

include h hproper

/-- Every cut stands before a call or behind it, or is made in it. -/
theorem Rewritten.apart_or_within (hc : c ∈ calls) {p : Patch} (hp : p ∈ cuts) :
    p.stop ≤ c.call.node.start ∨ c.call.node.stop ≤ p.start ∨
      p ∈ CallSite.cutsWithin t calls c.call.node.start c.call.node.stop := by
  rcases h.only p hp with hcall | hmerge | ⟨hapart, -⟩
  · obtain ⟨b, hb, rfl⟩ := List.mem_map.1 hcall
    refine (CallSite.apart_or_inside hroot.nested hcalls hproper hb hc).imp_right (Or.imp_right fun hinside => ?_)
    exact List.mem_map_of_mem (List.mem_filter.2 ⟨hb, hinside⟩)
  · exact (merged_apart hroot hcalls hmerged hc hmerge).imp_right .inl
  · obtain ⟨n, hn, -, hbelow⟩ := CallSite.exists_child hroot (hcalls.subset hc)
    have hspan := hroot.nested.span_in_child hn (Node.node_mem_nodes hbelow)
    have := hapart n hn
    omega

theorem Rewritten.mem_cuts (hc : c ∈ calls) {p : Patch}
    (hp : p ∈ CallSite.cutsWithin t calls c.call.node.start c.call.node.stop) : p ∈ cuts := by
  have hspan := CallSite.span_cutsWithin hroot.nested hcalls hproper hp
  refine (h.patches p ((List.filter_sublist.map _).subset hp)).resolve_right ?_
  rintro ⟨q, hq, hqp⟩
  have := merged_apart hroot hcalls hmerged hc hq
  omega

/-- The cuts of a text, before a call, in it and behind it, if an import that is written anew holds no call. -/
theorem Rewritten.cuts_around (hc : c ∈ calls) :
    ∃ upper lower, cuts = upper ++ CallSite.cutsWithin t calls c.call.node.start c.call.node.stop ++ lower ∧
      Patch.Ordered 0 c.call.node.start upper ∧
      Patch.Ordered c.call.node.stop (Bytes.ofString code).length lower := by
  have hsite := Node.node_mem_nodes (CallSite.mem_all_iff.1 (hcalls.subset hc)).1
  have hspan {p : Patch} (hp : p ∈ CallSite.cutsWithin t calls c.call.node.start c.call.node.stop) :=
    CallSite.span_cutsWithin hroot.nested hcalls hproper hp
  have hcases (p : Patch) (hp : p ∈ cuts) := h.apart_or_within hroot hcalls hproper hmerged hc hp
  have hmem (p : Patch) (hp : p ∈ CallSite.cutsWithin t calls c.call.node.start c.call.node.stop) :=
    h.mem_cuts hroot hcalls hproper hmerged hc hp
  have hle : c.call.node.start ≤ c.call.node.stop := by
    have := CallSite.span_callee hroot.nested hcalls hproper hc
    exact Nat.le_trans (Nat.le_of_lt this.1) this.2
  obtain ⟨upper, own, lower, rfl, hupper, hown, hlower, hwidths⟩ := h.ordered.split_around (Nat.zero_le _) hle
    (hroot.boundaries _ hsite).2.le_length fun p hp => (hcases p hp).imp_right (Or.imp_right hspan)
  -- both rows are in order, so it is enough that they hold the same cuts
  have hsame : own = CallSite.cutsWithin t calls c.call.node.start c.call.node.stop := by
    refine (hown.pairwise_before hwidths).eq_of_mem_iff
      (CallSite.pairwise_cutsWithin hroot.nested hcalls hproper _ _) fun p => ⟨fun hp => ?_, fun hp => ?_⟩
    · have hinside := hown.span hp
      have hwidth := hwidths p hp
      rcases hcases p (List.mem_append_left _ (List.mem_append_right _ hp)) with hbefore | hbehind | hwithin
      · omega
      · omega
      · exact hwithin
    · have hinside := hspan hp
      simp only [List.mem_append] at hmem
      rcases hmem p hp with (hp | hp) | hp
      · have := hupper.span hp
        omega
      · exact hp
      · have := hlower.span hp
        omega
  exact ⟨upper, lower, hsame ▸ rfl, hupper, hlower⟩

end

end Document

/-! ## What a run records -/

namespace Session
variable {src : Bytes} {root : Node} {t : Target}

theorem mutation_eq_ok {rs : List Replacement} {r : Replacement} {bytes : Bytes} {e : Event}
    (hrender : r.render src rs = some bytes) (h : mutation src rs r = .ok e) :
    ∃ before after : String, e = .mutation "Call" before after (some (src.line r.start)) ∧
      Bytes.ofString before = src.slice r.start r.stop ∧ Bytes.ofString after = bytes := by
  obtain ⟨before, hbefore, h⟩ := Failure.bind_eq_ok_iff.1 h
  rw [hrender] at h
  obtain ⟨after, hafter, h⟩ := Failure.bind_eq_ok_iff.1 h
  exact ⟨before, after, (Except.ok.inj h).symm, (Bytes.eq_ofString_of_decode hbefore).symm,
    (Bytes.eq_ofString_of_decode hafter).symm⟩

theorem mem_boundCalls_iff {c : CallSite} {b : Binding} :
    (c, b) ∈ boundCalls (.ofItems src root) t ↔ c.call ∈ root.preorder [] ∧ c.IsCallOf src t ∧
      (ScopeTable.ofTree src root).resolve c.objectSite t.object = some b := by
  rw [boundCalls, Document.source_ofItems, Document.root_ofItems, List.mem_filterMap]
  constructor
  · rintro ⟨c', hc', hb⟩
    obtain ⟨b', hb', hpair⟩ := Option.map_eq_some_iff.1 hb
    obtain ⟨rfl, rfl⟩ := Prod.mk.inj hpair
    obtain ⟨hsite, hshape⟩ := CallSite.mem_all_iff.1 hc'
    exact ⟨hsite, hshape, hb'⟩
  · rintro ⟨hsite, hshape, hb⟩
    exact ⟨c, CallSite.mem_all_iff.2 ⟨hsite, hshape⟩, Option.map_eq_some_iff.2 ⟨b, hb, rfl⟩⟩

theorem pairwise_boundCalls (hroot : root.Nested) (hproper : ∀ c ∈ CallSite.all src t root, c.Proper) :
    ((boundCalls (.ofItems src root) t).map Prod.fst).Pairwise CallSite.Before := by
  rw [List.pairwise_map, boundCalls, Document.source_ofItems, Document.root_ofItems, List.pairwise_filterMap]
  refine (CallSite.pairwise_before hroot hproper).imp fun {a b} hbefore p hp q hq => ?_
  obtain ⟨_, -, rfl⟩ := Option.map_eq_some_iff.1 hp
  obtain ⟨_, -, rfl⟩ := Option.map_eq_some_iff.1 hq
  exact hbefore

end Session

namespace Settings
variable {s : Settings} {file : SourceText} {o : Outcome}

/-- The event records the change of a call: its text in the file and the line on which it starts, and the text in its
place, which stands in the whole text between what becomes of the file before the call and what becomes of it behind. -/
def Records (file : SourceText) (t : Target) (calls : List CallSite) (cuts : List Patch) (out : String) (c : CallSite)
    (e : Event) : Prop :=
  ∃ (before after : String) (upper lower : List Patch),
    e = .mutation "Call" before after
      (some (((Bytes.ofString file.code).take c.call.node.start).count Bytes.lineFeed + 1 : Nat)) ∧
    Bytes.ofString before = (Bytes.ofString file.code).slice c.call.node.start c.call.node.stop ∧
    Bytes.ofString after =
      (Bytes.ofString file.code).edited c.call.node.start c.call.node.stop
        (CallSite.cutsWithin t calls c.call.node.start c.call.node.stop) ∧
    cuts = upper ++ CallSite.cutsWithin t calls c.call.node.start c.call.node.stop ++ lower ∧
    Patch.Ordered 0 c.call.node.start upper ∧
    Patch.Ordered c.call.node.stop (Bytes.ofString file.code).length lower ∧
    Bytes.ofString out = (Bytes.ofString file.code).edited 0 c.call.node.start upper ++ Bytes.ofString after ++
      (Bytes.ofString file.code).edited c.call.node.stop (Bytes.ofString file.code).length lower

/-- The calls that a run redirects. -/
def calls (s : Settings) (file : SourceText) : List CallSite :=
  Session.ambientCalls (.ofItems (Bytes.ofString file.code) file.root) s.target

section Run
variable (hrun : (s.run file).result = .ok o) (hroot : file.root.WellFormed file.code)
  (hproper : ∀ c ∈ CallSite.all (Bytes.ofString file.code) s.target file.root, c.Proper)
include hroot hproper

include hrun in
/-- The cuts that make the text of a run. -/
theorem rewritten_run :
    o.redirected = (s.calls file).length ∧
      ∃ cuts, Bytes.ofString o.code = (Bytes.ofString file.code).edited 0 (Bytes.ofString file.code).length cuts ∧
        Document.Rewritten (Bytes.ofString file.code) file.root ((s.calls file).map (CallSite.patch s.target))
          (s.mergedImport? file (s.calls file)) (Bytes.ofString s.request.declaration.print) cuts := by
  obtain ⟨p, -, hp, hredirected, hcases⟩ := run_cases hrun
  have hcount : p.redirected = (s.calls file).length := by rw [redirected_process hp, Session.length_placed hroot, calls]
  refine ⟨hredirected.trans hcount, ?_⟩
  rcases hcases with ⟨hzero, hcode, -⟩ | ⟨hpos, hrender, -⟩
  · rw [List.length_eq_zero_iff.1 (hcount.symm.trans hzero)]
    exact ⟨[], by simp [hcode, Bytes.edited, Bytes.slice], Nat.zero_le _, by simp, nofun, by simp⟩
  · obtain ⟨bytes, hbytes, hdecode⟩ := Failure.bind_eq_ok_iff.1 hrender
    obtain rfl := Bytes.eq_ofString_of_decode hdecode
    have hsome : (s.calls file).isEmpty = false := List.isEmpty_eq_false_iff.2 (List.ne_nil_of_length_pos (hcount ▸ hpos))
    rw [mergedImport?, hsome]
    exact rewritten_process hroot hproper hp hpos hbytes

theorem records_mutation {cuts : List Patch}
    (himports : ∀ n ∈ file.root.children, n.kind = "import_statement" → ∀ m ∈ n.nodes, m.kind ≠ "call_expression")
    (hout : Bytes.ofString o.code = (Bytes.ofString file.code).edited 0 (Bytes.ofString file.code).length cuts)
    (hrewritten : Document.Rewritten (Bytes.ofString file.code) file.root
      ((s.calls file).map (CallSite.patch s.target)) (s.mergedImport? file (s.calls file))
      (Bytes.ofString s.request.declaration.print) cuts)
    {c : CallSite} {e : Event} {j : Nat} (hc : c ∈ s.calls file)
    (hplaced : c.replacement s.target ∈
      Session.placedOn (.ofItems (Bytes.ofString file.code) file.root) s.target j)
    (he : Session.mutation (Bytes.ofString file.code)
      (Session.placedOn (.ofItems (Bytes.ofString file.code) file.root) s.target j) (c.replacement s.target) = .ok e) :
    Records file s.target (s.calls file) cuts o.code c e := by
  have hcalls : (s.calls file).Sublist (CallSite.all (Bytes.ofString file.code) s.target file.root) :=
    Session.sublist_ambientCalls _ _ _
  have hmerged : ∀ q ∈ s.mergedImport? file (s.calls file), ∃ n ∈ file.root.children,
      (∀ m ∈ n.nodes, m.kind ≠ "call_expression") ∧ q.start = n.start ∧ q.stop = n.stop := by
    intro q hq
    unfold mergedImport? at hq
    split at hq
    · cases hq
    · obtain ⟨n, hn, hkind, hspan⟩ := Document.exists_importStatement hq
      exact ⟨n, hn, himports n hn hkind, hspan⟩
  obtain ⟨before, after, rfl, hbefore, hafter⟩ :=
    Session.mutation_eq_ok (CallSite.render_eq_edited hroot hproper hc hplaced) he
  obtain ⟨upper, lower, hcuts, hupper, hlower⟩ := hrewritten.cuts_around hroot hcalls hproper hmerged hc
  have hspan := CallSite.span_callee hroot.nested hcalls hproper hc
  have hown := CallSite.ordered_cutsWithin hroot.nested hcalls hproper (Nat.le_trans (Nat.le_of_lt hspan.1) hspan.2)
  refine ⟨before, after, upper, lower, rfl, hbefore, hafter, hcuts, hupper, hlower, ?_⟩
  rw [hout, hcuts, hafter, ← Bytes.edited_append (hupper.append hown) hlower, ← Bytes.edited_append hupper hown]
  rfl

end Run

/-- What a run that succeeds has recorded. Its phases are nested and closed. In the phase of the calls every call of a
bound object is noted, and then every redirected call, both in the order of the file. What is recorded of a redirected
call is the text it had, the line it is on, and the text that stands in its place in the new text. -/
theorem run_trace (hrun : (s.run file).result = .ok o) (hroot : file.root.WellFormed file.code)
    (hproper : ∀ c ∈ CallSite.all (Bytes.ofString file.code) s.target file.root, c.Proper)
    (himports : ∀ n ∈ file.root.children, n.kind = "import_statement" → ∀ m ∈ n.nodes, m.kind ≠ "call_expression") :
    ∃ (bound : List (CallSite × Binding)) (calls : List CallSite) (mutations : List Event) (phase : Nat)
      (cuts : List Patch),
      (∀ c b, (c, b) ∈ bound ↔ c.call ∈ file.root.preorder [] ∧ c.IsCallOf (Bytes.ofString file.code) s.target ∧
        (ScopeTable.ofTree (Bytes.ofString file.code) file.root).resolve c.objectSite s.object = some b) ∧
      (∀ c, c ∈ calls ↔ c.call ∈ file.root.preorder [] ∧ c.IsCallOf (Bytes.ofString file.code) s.target ∧
        (ScopeTable.ofTree (Bytes.ofString file.code) file.root).resolve c.objectSite s.object = none) ∧
      (bound.map Prod.fst).Pairwise CallSite.Before ∧ calls.Pairwise CallSite.Before ∧
      Traced o.trace phase
        ((bound.map fun p => Session.inspection (Bytes.ofString file.code) s.target p.1 p.2) ++ mutations) ∧
      o.redirected = mutations.length ∧
      Bytes.ofString o.code = (Bytes.ofString file.code).edited 0 (Bytes.ofString file.code).length cuts ∧
      Document.Rewritten (Bytes.ofString file.code) file.root (calls.map (CallSite.patch s.target))
        (s.mergedImport? file calls) (Bytes.ofString s.request.declaration.print) cuts ∧
      List.Forall₂ (Records file s.target calls cuts o.code) calls mutations := by
  obtain ⟨p, -, hp, htrace, -⟩ := run_outcome hrun
  obtain ⟨n, done, hredirect, -⟩ := process_cases hp
  obtain ⟨hcount, cuts, hout, hrewritten⟩ := rewritten_run hrun hroot hproper
  obtain ⟨mutations, hmutations, hdone⟩ := Session.trace_redirect hroot hproper rfl hredirect
  have hrecords : List.Forall₂ (Records file s.target (s.calls file) cuts o.code) (s.calls file) mutations := by
    refine ((List.forall₂_and_left _ _).2 ⟨fun c hc => hc, hmutations⟩).imp fun c e hce => ?_
    obtain ⟨hc, j, hplaced, hmutation⟩ := hce
    exact records_mutation hroot hproper himports hout hrewritten hc hplaced hmutation
  have hevents : ∀ e ∈ ((Session.boundCalls (.ofItems (Bytes.ofString file.code) file.root) s.target).map fun p =>
      Session.inspection (Bytes.ofString file.code) s.target p.1 p.2) ++ mutations, e.isBracket = false := by
    intro e he
    rcases List.mem_append.1 he with he | he
    · obtain ⟨q, -, rfl⟩ := List.mem_map.1 he
      rfl
    · obtain ⟨i, hi, rfl⟩ := List.mem_iff_getElem.1 he
      obtain ⟨before, after, -, -, he, -⟩ := hrecords.get (hrecords.length_eq ▸ hi) hi
      rw [List.get_eq_getElem] at he
      rw [he]
      rfl
  refine ⟨_, s.calls file, mutations, 3, cuts, fun c b => Session.mem_boundCalls_iff,
    fun c => Session.mem_ambientCalls_iff, Session.pairwise_boundCalls hroot.nested hproper,
    (CallSite.pairwise_before hroot.nested hproper).sublist (Session.sublist_ambientCalls _ _ _), ?_,
    hcount.trans hrecords.length_eq, hout, hrewritten, hrecords⟩
  rw [htrace]
  refine traced_process hp hevents fun n' done' hredirect' => ?_
  obtain ⟨-, rfl⟩ := Prod.mk.inj (Except.ok.inj (hredirect.symm.trans hredirect'))
  exact hdone

/-- An import that gets one more entry, a call of a parameter, and a call with another one in its arguments. -/
def tracedFile : SourceText where
  code := "import \x7b a \x7d from \"src/lib.logger\";\nfunction f(console) \x7b console.error(1); \x7d\n" ++
    "console.error(console.error(2));\n"
  root :=
    ⟨"program", true, false, 0, 111, none,
      [⟨"import_statement", true, false, 0, 35, none,
        [⟨"import_clause", true, false, 7, 12, none,
          [⟨"named_imports", true, false, 7, 12, none,
            [⟨"import_specifier", true, false, 9, 10, none, [⟨"identifier", true, false, 9, 10, some "name", []⟩]⟩]⟩]⟩,
          ⟨"string", true, false, 18, 34, some "source", []⟩]⟩,
        ⟨"function_declaration", true, false, 36, 77, none,
          [⟨"identifier", true, false, 45, 46, some "name", []⟩,
            ⟨"formal_parameters", true, false, 46, 55, some "parameters",
              [⟨"identifier", true, false, 47, 54, none, []⟩]⟩,
            ⟨"statement_block", true, false, 56, 77, some "body",
              [⟨"expression_statement", true, false, 58, 75, none,
                [Session.consoleCall 58 74 [⟨"number", true, false, 72, 73, none, []⟩]]⟩]⟩]⟩,
        ⟨"expression_statement", true, false, 78, 110, none,
          [Session.consoleCall 78 109 [Session.consoleCall 92 108 [⟨"number", true, false, 106, 107, none, []⟩]]]⟩]⟩

/-- The outer call is recorded with the inner one redirected. -/
theorem run_trace_nested :
    ∃ (o : Outcome) (calls : List CallSite) (cuts : List Patch), (run { dialect := .js } tracedFile).result = .ok o ∧
      o.code = "import \x7b a, logError \x7d from \"src/lib.logger\";\n" ++
        "function f(console) \x7b console.error(1); \x7d\nlogError(logError(2));\n" ∧
      Traced o.trace 3 [.inspection "console.error(1)" "skipped" "'console' is bound locally (parameter, line 2)",
        .mutation "Call" "console.error(console.error(2))" "logError(logError(2))" (some 3),
        .mutation "Call" "console.error(2)" "logError(2)" (some 3)] ∧
      List.Forall₂ (Records tracedFile (target { dialect := .js }) calls cuts o.code) calls
        [.mutation "Call" "console.error(console.error(2))" "logError(logError(2))" (some 3),
          .mutation "Call" "console.error(2)" "logError(2)" (some 3)] := by
  have hvalues : ((run { dialect := .js } tracedFile).result.toOption.map fun o =>
      (o.code, o.redirected, o.trace.phases "Rewrite Call Sites", o.trace.eventsUnder 3)) =
      some ("import \x7b a, logError \x7d from \"src/lib.logger\";\n" ++
        "function f(console) \x7b console.error(1); \x7d\nlogError(logError(2));\n", 2, [3],
        [.inspection "console.error(1)" "skipped" "'console' is bound locally (parameter, line 2)",
          .mutation "Call" "console.error(console.error(2))" "logError(logError(2))" (some 3),
          .mutation "Call" "console.error(2)" "logError(2)" (some 3), .phaseEnd]) := by
    decide +kernel
  cases hrun : (run { dialect := .js } tracedFile).result with
  | error e =>
    rw [hrun] at hvalues
    cases hvalues
  | ok o =>
    rw [hrun] at hvalues
    have hvalues := Option.some.inj hvalues
    simp only [Prod.mk.injEq] at hvalues
    obtain ⟨hcode, hredirected, hphases, hevents⟩ := hvalues
    obtain ⟨bound, calls, mutations, phase, cuts, -, -, -, -, htraced, hcount, -, -, hrecords⟩ :=
      run_trace hrun (by decide +kernel) (by decide +kernel) (by decide +kernel)
    obtain rfl : phase = 3 := by simpa using htraced.phases_eq.symm.trans hphases
    have hall := htraced.eventsUnder_eq.symm.trans hevents
    generalize bound.map (fun p => Session.inspection _ _ p.1 p.2) = inspections at htraced hall
    obtain ⟨outer, inner, rfl⟩ := List.length_eq_two.1 (hcount.symm.trans hredirected)
    obtain ⟨noted, rfl⟩ : ∃ noted, inspections = [noted] := by
      have hlength := congrArg List.length hall
      rw [List.length_append, List.length_append] at hlength
      exact List.length_eq_one_iff.1 (by simpa using hlength)
    simp only [List.cons_append, List.nil_append, List.cons.injEq, and_true] at hall
    obtain ⟨rfl, rfl, rfl⟩ := hall
    exact ⟨o, calls, cuts, rfl, hcode, htraced, hrecords⟩

end Settings
end CallRedirect
