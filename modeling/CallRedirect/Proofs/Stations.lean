import CallRedirect.Proofs.Keeping
import CallRedirect.Proofs.RegrownScopes

/-! # Where the pieces of a document stand

The pieces of a document stand in its text one after the other. Each of them is a part of the file with the new callees
in it, or the import that was written, so the parts of the regrown tree stand where their texts do.

* `Piece.stand_starts`: the pieces of a row stand where `Piece.starts` says.
* `Document.Prints`: a piece is printed as its slot says.
* `Document.Kept.prints`: all pieces of a document that keeps its file are.
* `Document.Kept.regrows`: so its regrown tree is one of its text. -/

namespace CallRedirect
set_option autoImplicit false

/-! ## Rows -/

theorem Bytes.slice_middle (a b c : Bytes) : (a ++ b ++ c).slice a.length (a.length + b.length) = b := by
  simp [slice, List.take_append]

namespace Piece

/-- The pieces stand in a text between two offsets, one after the other, each where it starts. -/
inductive Stand (out : Bytes) : Nat → Nat → List Piece → List Nat → Prop where
  | nil {lo hi : Nat} (h : lo ≤ hi) : Stand out lo hi [] []
  | cons {lo hi start : Nat} {p : Piece} {ps : List Piece} {starts : List Nat} (hlo : lo ≤ start)
    (hp : out.slice start (start + p.bytes.length) = p.bytes) (hps : Stand out (start + p.bytes.length) hi ps starts) :
    Stand out lo hi (p :: ps) (start :: starts)

theorem Stand.le {out : Bytes} {lo hi : Nat} {ps : List Piece} {starts : List Nat} (h : Stand out lo hi ps starts) :
    lo ≤ hi := by
  induction h with
  | nil h => exact h
  | cons hlo _ _ ih => omega

theorem stand_startsAfter {out src before after : Bytes} {previous : Piece} {anchor : Option Slot} {ps : List Piece}
    (hout : out = before ++ continued src previous anchor ps ++ after) :
    Stand out before.length (before.length + (continued src previous anchor ps).length) ps
      (startsAfter src previous anchor before.length ps) := by
  induction ps generalizing before previous anchor with
  | nil => exact .nil (Nat.le_add_right _ _)
  | cons p ps ih =>
    have hstart : before.length + (separator src previous p anchor).length =
        (before ++ separator src previous p anchor).length := by rw [List.length_append]
    have hp : out = before ++ separator src previous p anchor ++ p.bytes ++
        (continued src p (p.slot.or anchor) ps ++ after) := by simp [hout, continued]
    have hrest : out = before ++ separator src previous p anchor ++ p.bytes ++ continued src p (p.slot.or anchor) ps ++
        after := by simp [hout, continued]
    have hstop : (before ++ separator src previous p anchor ++ p.bytes).length =
        (before ++ separator src previous p anchor).length + p.bytes.length := List.length_append
    have hend : before.length + (continued src previous anchor (p :: ps)).length =
        (before ++ separator src previous p anchor ++ p.bytes).length +
          (continued src p (p.slot.or anchor) ps).length := by
      simp only [continued, List.length_append]
      omega
    rw [startsAfter, hstart, hend]
    refine .cons (by simp) ?_ ?_
    · rw [hp]
      exact Bytes.slice_middle _ _ _
    · rw [← hstop]
      exact ih hrest

theorem stand_starts {out src before after : Bytes} {ps : List Piece} (hout : out = before ++ row src ps ++ after) :
    Stand out before.length (before.length + (row src ps).length) ps (starts src before.length ps) := by
  cases ps with
  | nil => exact .nil (Nat.le_add_right _ _)
  | cons p ps =>
    have hp : out = before ++ p.bytes ++ (continued src p p.slot ps ++ after) := by simp [hout, row]
    have hrest : out = before ++ p.bytes ++ continued src p p.slot ps ++ after := by simp [hout, row]
    have hstand := stand_startsAfter hrest
    rw [List.length_append] at hstand
    rw [row, List.length_append, ← Nat.add_assoc]
    refine .cons (Nat.le_refl _) ?_ hstand
    rw [hp]
    exact Bytes.slice_middle _ _ _

end Piece

/-! ## Grafts -/

/-- The tree of the text of an import, read by itself. -/
structure Node.IsImportOf (text : String) (n : Node) : Prop where
  kind : n.kind = "import_statement"
  start : n.start = 0
  stop : n.stop = (Bytes.ofString text).length
  inert : n.Inert

instance (text : String) (n : Node) : Decidable (n.IsImportOf text) :=
  decidable_of_iff
    (n.kind = "import_statement" ∧ n.start = 0 ∧ n.stop = (Bytes.ofString text).length ∧ n.Inert)
    ⟨fun ⟨h1, h2, h3, h4⟩ => ⟨h1, h2, h3, h4⟩, fun h => ⟨h.kind, h.start, h.stop, h.inert⟩⟩

theorem Node.InOrder.cons {lo hi : Nat} {n : Node} {ns : List Node} (hlo : lo ≤ n.start) (hspan : n.start ≤ n.stop)
    (hhi : n.stop ≤ hi) (h : InOrder n.stop hi ns) : InOrder lo hi (n :: ns) := by
  refine ⟨?_, List.pairwise_cons.2 ⟨fun m hm => (h.inside m hm).1, h.apart⟩⟩
  intro m hm
  rcases List.mem_cons.1 hm with rfl | hm
  · exact ⟨hlo, hspan, hhi⟩
  · have hinside := h.inside m hm
    exact ⟨by omega, hinside.2⟩

namespace Document

/-- The piece is printed as its slot says: a part of the file with the new callees in it, or an import. -/
def Prints (d : Document) (t : Target) (decl : ImportDecl) : Option Slot → Piece → Prop
  | none, p => p.bytes = Bytes.ofString decl.print
  | some slot, p => ∃ n, d.root.children[slot.ordinal]? = some n ∧
    p.bytes = d.source.patched (d.patches t) n.start n.stop

section Grafts
variable {d : Document} {t : Target} {decl : ImportDecl} {imp : Node} {out : Bytes} (himp : imp.IsImportOf decl.print)

theorem moved_start (d : Document) (t : Target) (n : Node) (start : Nat) : d.moved t n start n.start = start := by
  rw [moved, Bytes.patched_self, List.length_nil, Nat.add_zero]

theorem graft_some {slot : Slot} {n : Node} (hn : d.root.children[slot.ordinal]? = some n) (start : Nat) :
    d.graft t imp (some slot) start = n.regrown (d.moved t n start) (d.redirects t) := by
  rw [graft, hn, Option.getD_some]

include himp

/-- What is grafted covers the piece. -/
theorem span_graft {slot : Option Slot} {p : Piece} (h : d.Prints t decl slot p) (start : Nat) :
    (d.graft t imp slot start).start = start ∧ (d.graft t imp slot start).stop = start + p.bytes.length := by
  cases slot with
  | none =>
    rw [graft, Node.start_regrown, Node.stop_regrown, himp.start, himp.stop, show p.bytes = _ from h]
    exact ⟨rfl, rfl⟩
  | some slot =>
    obtain ⟨n, hn, hp⟩ := h
    rw [graft_some hn, Node.start_regrown, Node.stop_regrown, moved_start, moved, hp]
    exact ⟨rfl, rfl⟩

theorem part_graft {slot : Option Slot} {p : Piece} {start : Nat} (h : d.Prints t decl slot p)
    (hp : out.slice start (start + p.bytes.length) = p.bytes) :
    (d.graft t imp slot start).Inert ∨ ∃ n ∈ d.root.children, ∃ start', d.Carries t n start' out ∧
      d.graft t imp slot start = n.regrown (d.moved t n start') (d.redirects t) := by
  cases slot with
  | none => exact .inl (himp.inert.shifted start)
  | some slot =>
    obtain ⟨n, hn, hbytes⟩ := h
    rw [hbytes] at hp
    exact .inr ⟨n, List.mem_of_getElem? hn, start, hp, graft_some hn start⟩

/-- Grafts stand in order, as the pieces do. -/
theorem inOrder_grafts {slots : List (Option Slot)} {ps : List Piece} {lo hi : Nat} {starts : List Nat}
    (hprints : List.Forall₂ (d.Prints t decl) slots ps) (hstand : Piece.Stand out lo hi ps starts) :
    Node.InOrder lo hi (List.zipWith (d.graft t imp) slots starts) := by
  induction hstand generalizing slots with
  | nil h =>
    obtain rfl := List.forall₂_nil_right_iff.1 hprints
    exact ⟨by simp, .nil⟩
  | @cons lo hi start p ps starts hlo hp hps ih =>
    obtain ⟨slot, slots, hslot, hslots, rfl⟩ := List.forall₂_cons_right_iff.1 hprints
    have hrest := ih hslots
    have hspan := span_graft himp hslot start
    have hle := hps.le
    rw [← hspan.2] at hrest hle
    exact Node.InOrder.cons (by omega) (by omega) hle hrest

theorem parts_grafts {slots : List (Option Slot)} {ps : List Piece} {lo hi : Nat} {starts : List Nat}
    (hprints : List.Forall₂ (d.Prints t decl) slots ps) (hstand : Piece.Stand out lo hi ps starts) :
    ∀ c ∈ List.zipWith (d.graft t imp) slots starts, c.Inert ∨ ∃ n ∈ d.root.children, ∃ start,
      d.Carries t n start out ∧ c = n.regrown (d.moved t n start) (d.redirects t) := by
  induction hstand generalizing slots with
  | nil h => simp
  | @cons lo hi start p ps starts hlo hp hps ih =>
    obtain ⟨slot, slots, hslot, hslots, rfl⟩ := List.forall₂_cons_right_iff.1 hprints
    rw [List.zipWith_cons_cons, List.forall_mem_cons]
    exact ⟨part_graft himp hslot hp, ih hslots⟩

omit himp in
/-- Each slot has its graft. -/
theorem exists_graft {slots : List (Option Slot)} {ps : List Piece} {lo hi : Nat} {starts : List Nat} {slot : Slot}
    {n : Node} (hprints : List.Forall₂ (d.Prints t decl) slots ps) (hstand : Piece.Stand out lo hi ps starts)
    (hslot : some slot ∈ slots) (hn : d.root.children[slot.ordinal]? = some n) :
    ∃ start, d.Carries t n start out ∧
      n.regrown (d.moved t n start) (d.redirects t) ∈ List.zipWith (d.graft t imp) slots starts := by
  induction hstand generalizing slots with
  | nil h =>
    obtain rfl := List.forall₂_nil_right_iff.1 hprints
    cases hslot
  | @cons lo hi start p ps starts hlo hp hps ih =>
    obtain ⟨slot', slots, hslot', hslots, rfl⟩ := List.forall₂_cons_right_iff.1 hprints
    rw [List.zipWith_cons_cons]
    rcases List.mem_cons.1 hslot with rfl | hslot
    · obtain ⟨m, hm, hbytes⟩ := hslot'
      obtain rfl : n = m := Option.some.inj (hn.symm.trans hm)
      rw [hbytes] at hp
      exact ⟨start, hp, by rw [graft_some hn]; exact List.mem_cons_self⟩
    · obtain ⟨start', hcarries, hmem⟩ := ih hslots hslot
      exact ⟨start', hcarries, List.mem_cons_of_mem _ hmem⟩

end Grafts

/-! ## Pieces of a document -/

theorem forall₂_mapM {α β : Type} {f : α → Except Failure β} {l : List α} {bs : List β} (h : l.mapM f = .ok bs) :
    List.Forall₂ (fun a b => f a = .ok b) l bs := by
  induction l generalizing bs with
  | nil =>
    obtain rfl := Except.ok.inj h
    exact .nil
  | cons a l ih =>
    rw [List.mapM_cons] at h
    obtain ⟨b, hb, h⟩ := Failure.bind_eq_ok_iff.1 h
    obtain ⟨bs', hbs, h⟩ := Failure.bind_eq_ok_iff.1 h
    obtain rfl := Except.ok.inj h
    exact .cons hb (ih hbs)

theorem forall₂_flatten {α β γ : Type} {R : β → γ → Prop} {f : α → List β} {as : List α} {ls : List (List γ)}
    (h : List.Forall₂ (fun a l => List.Forall₂ R (f a) l) as ls) : List.Forall₂ R (as.flatMap f) ls.flatten := by
  induction h with
  | nil => exact .nil
  | cons hal _ ih =>
    rw [List.flatMap_cons, List.flatten_cons]
    exact List.rel_append hal ih

section Pieces
variable {d : Document} {t : Target} {decl : ImportDecl}
  (hcomments : ∀ i ∈ items d.root, i.isComment = true →
    d.source.patched (d.patches t) i.node.start i.node.stop = i.bytes d.source)
include hcomments

theorem prints_comments (decl : ImportDecl) {cs : List Comment} (hcs : ∀ c ∈ cs, c.Kept d.root) (placement : Placement) :
    List.Forall₂ (d.Prints t decl) (cs.map Comment.slot) (cs.map (Piece.ofComment d.source placement)) := by
  rw [List.forall₂_map_left_iff, List.forall₂_map_right_iff, List.forall₂_same]
  intro c hc
  obtain ⟨i, hi, hcomment, hslot⟩ := hcs c hc
  rw [hslot]
  refine ⟨i.node, mem_items_iff.1 hi, ?_⟩
  rw [hcomments i hi hcomment, Piece.ofComment, Comment.bytes, hslot]
  rfl

theorem prints_statement {s : Statement} (hs : s.Kept d.source d.root (d.patches t) decl) {ps : List Piece}
    (hps : s.pieces d.source = .ok ps) :
    List.Forall₂ (d.Prints t decl)
      (s.leading.map Comment.slot ++ (if s.verbatim then s.slot else none) :: s.trailing.map Comment.slot) ps := by
  have hleading := prints_comments hcomments decl
    (fun c hc => hs.comments c (List.mem_append_left s.trailing hc)) .leading
  have htrailing := prints_comments hcomments decl
    (fun c hc => hs.comments c (List.mem_append_right s.leading hc)) .trailing
  rw [Statement.pieces] at hps
  cases hrender : s.render d.source with
  | error e =>
    rw [hrender] at hps
    cases hps
  | ok bytes =>
    rw [hrender] at hps
    obtain rfl := Except.ok.inj hps
    refine List.rel_append hleading (.cons ?_ htrailing)
    cases hverbatim : s.verbatim with
    | true =>
      obtain ⟨i, hi, hslot, hbytes⟩ := hs.verbatim hverbatim
      rw [if_pos rfl, hslot]
      exact ⟨i.node, mem_items_iff.1 hi, Except.ok.inj (hrender.symm.trans hbytes)⟩
    | false =>
      have hgenerate : s.render d.source = .ok (Bytes.ofString decl.print) := by
        rw [Statement.render, hverbatim, Statement.generate, hs.written hverbatim]
      exact Except.ok.inj (hrender.symm.trans hgenerate)

theorem Kept.prints (hkept : d.Kept d.source d.root (d.patches t) decl) {ps : List Piece} (hps : d.pieces = .ok ps) :
    List.Forall₂ (d.Prints t decl) d.slots ps := by
  obtain ⟨pss, hpss, h⟩ := Failure.bind_eq_ok_iff.1 hps
  obtain rfl := Except.ok.inj h
  refine List.rel_append (prints_comments hcomments decl hkept.comments .file) (forall₂_flatten ?_)
  have hstatements := (List.forall₂_and_left _ _).2 ⟨hkept.statements, forall₂_mapM hpss⟩
  exact hstatements.imp fun s ps hs => prints_statement hcomments hs.1 hs.2

end Pieces

/-! ## The regrown tree -/

theorem Kept.slot_mem {src : Bytes} {root : Node} {ps : List Patch} {decl : ImportDecl} {d : Document}
    (h : d.Kept src root ps decl) {i : Item} (hi : i ∈ items root) (hcomment : i.isComment = false)
    (hkind : i.node.kind ≠ "import_statement") : some i.slot ∈ d.slots := by
  obtain ⟨s, hs, himport, hslot⟩ := h.complete i hi hcomment hkind
  have hverbatim : s.verbatim = true := by
    by_contra hnot
    rw [Statement.isImport, Statement.import?, (h.statements s hs).written (Bool.eq_false_iff.2 hnot)] at himport
    cases himport
  refine List.mem_append_right _ (List.mem_flatMap.2 ⟨s, hs, List.mem_append_right _ ?_⟩)
  rw [hverbatim, if_pos rfl, hslot]
  exact List.mem_cons_self

/-- The first part of the file stands in it. -/
theorem Framed.length_take_bodyStart {d : Document} {code : String} (hframed : d.Framed) (h : d.root.WellFormed code)
    (hsource : d.source = Bytes.ofString code) (hne : d.root.children ≠ []) :
    (d.source.take d.bodyStart).length = d.bodyStart ∧ d.root.start ≤ d.bodyStart := by
  obtain ⟨first, rest, hchildren⟩ := List.exists_cons_of_ne_nil hne
  have hfirst : d.bodyStart = first.start := by
    rw [hframed.bodyStart, hchildren]
    rfl
  have hmem : first ∈ d.root.children := hchildren ▸ List.mem_cons_self
  have hle := (h.boundaries first (Node.child_mem_nodes hmem)).1.le_length
  rw [← hsource] at hle
  rw [List.length_take, hfirst, Nat.min_eq_left hle]
  exact ⟨rfl, (h.nested.child_span hmem).1⟩

/-- The regrown tree of a document that keeps its file is one of its text, and has every statement of the file in it. -/
theorem Kept.regrows {d : Document} {code : String} {t : Target} {decl : ImportDecl} {imp : Node} {out : Bytes}
    (hkept : d.Kept d.source d.root (d.patches t) decl) (h : d.root.Grammatical code t)
    (hsource : d.source = Bytes.ofString code) (hfault : d.root.firstFaulty? = none) (hne : d.root.children ≠ [])
    (hrender : d.renderBytes = .ok out) (himp : imp.IsImportOf decl.print) :
    ∃ root', d.regrown t imp = .ok root' ∧ d.Regrows t out root' ∧
      ∀ i ∈ items d.root, i.isComment = false → i.node.kind ≠ "import_statement" →
        ∃ start, d.Carries t i.node start out ∧
          i.node.regrown (d.moved t i.node start) (d.redirects t) ∈ root'.children := by
  obtain ⟨ps, hps, hout⟩ := Failure.bind_eq_ok_iff.1 hrender
  have hout := (Except.ok.inj hout).symm
  have hcomments : ∀ i ∈ items d.root, i.isComment = true →
      d.source.patched (d.patches t) i.node.start i.node.stop = i.bytes d.source := by
    intro i hi hcomment
    rw [patches, ambientCalls_eq]
    exact Session.patched_comment h.wellFormed (fun c hc => proper_of_mem h hsource hc) hi hcomment
  have hprints := hkept.prints hcomments hps
  obtain ⟨hlength, hfirst⟩ := hkept.toFramed.length_take_bodyStart h.wellFormed hsource hne
  have hstand := Piece.stand_starts hout
  rw [hlength] at hstand
  have horder := inOrder_grafts himp hprints hstand
  have hregrown : d.regrown t imp = .ok { d.root with
      stop := d.bodyStart + (Piece.row d.source ps).length + (d.root.stop - d.bodyStop)
      children := List.zipWith (d.graft t imp) d.slots (Piece.starts d.source d.bodyStart ps) } := by
    rw [regrown, hps]
    rfl
  refine ⟨_, hregrown, ⟨h.table.program, ?_, ?_, ?_, ?_⟩, ?_⟩
  · by_contra hnamed
    exact hne (h.table.tokens d.root d.root.self_mem_nodes (by simpa using hnamed))
  · have hsound := Node.firstFaulty?_eq_none_iff.1 hfault d.root d.root.self_mem_nodes
    rw [Node.faulty, Bool.or_eq_false_iff] at hsound
    exact hsound.2
  · refine ⟨fun c hc => ?_, horder.apart⟩
    have hinside := horder.inside c hc
    show d.root.start ≤ _ ∧ _ ∧ _ ≤ d.bodyStart + _ + _
    omega
  · exact parts_grafts himp hprints hstand
  · intro i hi hcomment hkind
    exact exists_graft hprints hstand (hkept.slot_mem hi hcomment hkind) (mem_items_iff.1 hi)

end Document
end CallRedirect
