import CallRedirect.Proofs.Cuts
import CallRedirect.Proofs.EnsuredText
import CallRedirect.Proofs.Independence
import CallRedirect.Proofs.Stations

/-! # The order of the pieces

Redirecting calls and ensuring an import leave the items of a file in their order. One of them may be written anew, and
one import may be put in between. So the pieces of the document print strips of the file, one after the other, and its
text is the file with cuts in it: some of the items have new callees in them, one may be a new import, and what else is
put in stands between the items.

* `Document.places`: what is printed, in order.
* `Document.places_withImport`, `Document.places_merge`: an import put in, and an entry added.
* `Document.laid_items`: the pieces of items print the items.
* `Document.Rewritten`: the cuts of a file in which one import was written at most.
* `Document.Kept.rewrites`: the text of a document that keeps its file. -/

namespace CallRedirect
set_option autoImplicit false

/-! ## Places -/

/-- What a document prints in one place: the slot it had, and whether it still prints the text there. -/
structure Place where
  slot : Option Slot
  verbatim : Bool := true

/-- The slot whose text is printed. -/
def Place.kept (p : Place) : Option Slot := if p.verbatim then p.slot else none

def Comment.place (c : Comment) : Place := ⟨c.slot, true⟩

namespace Statement

def place (s : Statement) : Place := ⟨s.slot, s.verbatim⟩

/-- A statement between its comments. -/
def places (s : Statement) : List Place := s.leading.map Comment.place ++ s.place :: s.trailing.map Comment.place

end Statement

namespace Document

def Item.place (i : Item) : Place := ⟨some i.slot, true⟩

/-- What a document prints, in order. -/
def places (d : Document) : List Place := d.comments.map Comment.place ++ d.statements.flatMap Statement.places

theorem slots_eq (d : Document) : d.slots = d.places.map Place.kept := by
  have hstatement (s : Statement) : s.places.map Place.kept =
      s.leading.map Comment.slot ++ (if s.verbatim then s.slot else none) :: s.trailing.map Comment.slot := by
    rw [Statement.places, List.map_append, List.map_cons, List.map_map, List.map_map]
    rfl
  rw [slots, places, List.map_append, List.map_map, List.map_flatMap]
  simp only [hstatement]
  rfl

theorem slot_pieces {d : Document} {ps : List Piece} (h : d.pieces = .ok ps) :
    List.Forall₂ (fun place p => p.slot = place.slot) d.places ps := by
  have hcomments (cs : List Comment) (placement : Placement) :
      List.Forall₂ (fun (place : Place) (p : Piece) => p.slot = place.slot) (cs.map Comment.place)
        (cs.map (Piece.ofComment d.source placement)) := by
    rw [List.forall₂_map_left_iff, List.forall₂_map_right_iff, List.forall₂_same]
    exact fun _ _ => rfl
  obtain ⟨pss, hpss, h⟩ := Failure.bind_eq_ok_iff.1 h
  obtain rfl := Except.ok.inj h
  refine List.rel_append (hcomments d.comments .file) (forall₂_flatten ((forall₂_mapM hpss).imp fun s ps hs => ?_))
  rw [Statement.pieces] at hs
  cases hrender : s.render d.source with
  | error e =>
    rw [hrender] at hs
    cases hs
  | ok bytes =>
    rw [hrender] at hs
    obtain rfl := Except.ok.inj hs
    exact List.rel_append (hcomments s.leading .leading) (.cons rfl (hcomments s.trailing .trailing))

/-! ## Edits -/

theorem places_marked (on : Nat → List Replacement) (d : Document) : (d.marked on).places = d.places := by
  rw [places, places, marked, List.flatMap_map]
  rfl

theorem places_ofItems (src : Bytes) (root : Node) : (ofItems src root).places = (items root).map Item.place := by
  have hcomments (is : List Item) (placement : Placement) :
      (is.map (Item.comment src placement)).map Comment.place = is.map Item.place := by
    rw [List.map_map]
    rfl
  have hgroup (g : Group) : (g.statement src).places = g.items.map Item.place := by
    rw [Group.items, List.map_append, List.map_cons, ← hcomments g.leading .leading, ← hcomments g.trailing .trailing]
    rfl
  rw [ofItems_eq, places, hcomments, List.flatMap_map, ← items_outline src root, Outline.items, List.map_append,
    List.map_flatMap]
  simp only [hgroup]

/-- One more place, in which no text of the file is printed. -/
def Opened (d d' : Document) : Prop :=
  ∃ above below, d.places = above ++ below ∧ d'.places = above ++ ⟨none, false⟩ :: below

theorem places_insert (d : Document) (i : Nat) (decl : ImportDecl) : d.Opened (d.insert i (Statement.ofImport decl)) := by
  refine ⟨d.comments.map Comment.place ++ (d.statements.take i).flatMap Statement.places,
    (d.statements.drop i).flatMap Statement.places, ?_, ?_⟩
  · rw [List.append_assoc, ← List.flatMap_append, List.take_append_drop, places]
  · rw [places, insert, List.flatMap_append, List.flatMap_cons, List.append_assoc]
    rfl

theorem places_insertAtTop (d : Document) (decl : ImportDecl) :
    d.Opened (d.insertAtTop (Statement.ofImport decl)).2 := by
  -- in the last two cases the comments above the first statement come to stand above the import
  rcases d.insertAtTop_cases (Statement.ofImport decl) with
    htop | ⟨hnil, ⟨first, second, rest, hstatements, htop⟩ | ⟨first, hstatements, htop⟩⟩
  · rw [htop]
    exact d.places_insert 0 decl
  · rw [htop]
    refine ⟨first.leading.map Comment.place, first.place :: (first.trailing.map Comment.place ++
      (second.places ++ rest.flatMap Statement.places)), ?_, ?_⟩
    · simp [places, hnil, hstatements, Statement.places]
    · simp [places, hnil, Statement.places, Statement.place, Statement.ofImport]
  · rw [htop]
    refine ⟨first.leading.map Comment.place, first.place :: first.trailing.map Comment.place, ?_, ?_⟩
    · simp [places, hnil, hstatements, Statement.places]
    · simp [places, hnil, Statement.places, Statement.place, Statement.ofImport]

theorem places_withImport (r : Request) (d : Document) : d.Opened (d.withImport r) := by
  rw [withImport, Request.statement_eq]
  cases hafter : d.insertAfterImports? (Statement.ofImport r.declaration) with
  | some d' =>
    obtain ⟨p, -, rfl⟩ := Option.map_eq_some_iff.1 hafter
    exact d.places_insert _ _
  | none => exact d.places_insertAtTop _

theorem places_merge {d : Document} {i : Nat} {st : Statement} (hst : d.statements[i]? = some st) (decl : ImportDecl)
    (spec : Specifier) :
    ∃ above below, d.places = above ++ st.place :: below ∧
      (d.modify i fun s => s.merge decl spec).places = above ++ ⟨st.slot, false⟩ :: below := by
  obtain ⟨hi, rfl⟩ := List.getElem?_eq_some_iff.1 hst
  refine ⟨d.comments.map Comment.place ++ ((d.statements.take i).flatMap Statement.places ++
      d.statements[i].leading.map Comment.place),
    d.statements[i].trailing.map Comment.place ++ (d.statements.drop (i + 1)).flatMap Statement.places, ?_, ?_⟩
  · have hsplit : d.statements = d.statements.take i ++ d.statements[i] :: d.statements.drop (i + 1) := by
      rw [List.getElem_cons_drop, List.take_append_drop]
    have hflat := congrArg (List.flatMap Statement.places) hsplit
    rw [List.flatMap_append, List.flatMap_cons] at hflat
    rw [places, hflat]
    simp [Statement.places]
  · rw [places, modify, List.modify_eq_take_cons_drop hi]
    simp [Statement.places, Statement.place, Statement.merge]

/-! ## Strips -/

/-- The patches stand one after the other, each in an item of the file. -/
structure Fitted (root : Node) (ps : List Patch) : Prop where
  spans : ∀ p ∈ ps, p.start < p.stop
  order : ps.Pairwise fun p q => p.stop ≤ q.start
  inside : ∀ p ∈ ps, ∃ n ∈ root.children, n.start ≤ p.start ∧ p.stop ≤ n.stop

end Document

/-- A part of the file with the patches in it. -/
def Node.strip (ps : List Patch) (n : Node) : Strip :=
  ⟨n.start, n.stop, ps.filter fun p => n.start ≤ p.start && p.stop ≤ n.stop⟩

theorem Node.mem_strip {ps : List Patch} {n : Node} {p : Patch} :
    p ∈ (n.strip ps).cuts ↔ p ∈ ps ∧ n.start ≤ p.start ∧ p.stop ≤ n.stop := by
  simp [strip]

namespace Document

section Strips
variable {root : Node} {ps : List Patch} {lo hi : Nat} (hps : Fitted root ps)
include hps

theorem Fitted.ordered_strip {n : Node} (hn : n.start ≤ n.stop) :
    Patch.Ordered n.start n.stop (n.strip ps).cuts := by
  apply Patch.ordered_of_pairwise hn (hps.order.sublist List.filter_sublist)
  intro p hp
  obtain ⟨hmem, hstart, hstop⟩ := Node.mem_strip.1 hp
  exact ⟨hstart, Nat.le_of_lt (hps.spans p hmem), hstop⟩

theorem Fitted.patched_eq (src : Bytes) (horder : Node.InOrder lo hi root.children) {n : Node} (hn : n ∈ root.children) :
    src.patched ps n.start n.stop = src.edited n.start n.stop (n.strip ps).cuts := by
  rw [← Bytes.patched_eq_edited (hps.ordered_strip (horder.inside n hn).2.1)
    fun p hp => hps.spans p (Node.mem_strip.1 hp).1]
  have hfilter : src.patched ((n.strip ps).cuts.map id) n.start n.stop = src.patched (ps.map id) n.start n.stop := by
    apply Bytes.patched_filter
    intro p hp hnot
    refine ⟨hps.spans p hp, ?_⟩
    -- a patch that is not in this item is in another one
    obtain ⟨m, hm, hstart, hstop⟩ := hps.inside p hp
    rcases horder.eq_or_apart hn hm with rfl | hbefore | hbehind
    · simp [hstart, hstop] at hnot
    · exact .inr (Nat.le_trans hbefore hstart)
    · exact .inl (Nat.le_trans hstop hbehind)
  rw [List.map_id, List.map_id] at hfilter
  exact hfilter.symm

end Strips

end Document

theorem Session.fitted_ambientCalls {code : String} {root : Node} {src : Bytes} {t : Target} (hroot : root.WellFormed code)
    (hproper : ∀ c ∈ CallSite.all src t root, c.Proper) :
    Document.Fitted root ((ambientCalls (.ofItems src root) t).map (CallSite.patch t)) := by
  refine ⟨fun p hp => (patch_inside hroot hproper hp).1, ?_, fun p hp => ?_⟩
  · rw [List.pairwise_map]
    exact (pairwise_callee_ambientCalls hroot hproper).imp fun h => h.2
  · obtain ⟨-, i, hi, -, hinside⟩ := patch_inside hroot hproper hp
    exact ⟨i.node, Document.mem_children_of_mem_items hi, hinside⟩

namespace Document

/-! ## Pieces -/

/-- The piece is printed as its place says. -/
def Shows (d : Document) (t : Target) (decl : ImportDecl) (place : Place) (p : Piece) : Prop :=
  p.slot = place.slot ∧ d.Prints t decl place.kept p

section Laid
variable {d : Document} {t : Target} {decl : ImportDecl} {lo hi : Nat}

theorem Kept.shows (hcomments : ∀ i ∈ items d.root, i.isComment = true →
      d.source.patched (d.patches t) i.node.start i.node.stop = i.bytes d.source)
    (hkept : d.Kept d.source d.root (d.patches t) decl) {ps : List Piece} (hps : d.pieces = .ok ps) :
    List.Forall₂ (d.Shows t decl) d.places ps := by
  have hprints := hkept.prints hcomments hps
  rw [slots_eq, List.forall₂_map_left_iff] at hprints
  exact List.Forall₂.mp (fun _ _ hslot hprints => ⟨hslot, hprints⟩) (slot_pieces hps) hprints

variable (hpatches : Fitted d.root (d.patches t)) (horder : Node.InOrder lo hi d.root.children)
include hpatches horder

/-- The pieces of items print the items, with the patches in them. -/
theorem laid_items {is : List Item} (his : ∀ i ∈ is, i ∈ items d.root) {rest : List Place} {ss : List Strip}
    {ps : List Piece} {start stop : Nat} (horder' : Node.InOrder start hi (is.map Item.node))
    (hshows : List.Forall₂ (d.Shows t decl) (is.map Item.place ++ rest) ps)
    (hrest : ∀ qs, List.Forall₂ (d.Shows t decl) rest qs → Strip.Laid d.source (stopAfter start is) stop ss qs) :
    Strip.Laid d.source start stop ((is.map fun i => i.node.strip (d.patches t)) ++ ss) ps := by
  induction is generalizing start ps with
  | nil => exact hrest ps hshows
  | cons i is ih =>
    obtain ⟨p, qs, ⟨hslot, n, hn, hbytes⟩, hqs, rfl⟩ := List.forall₂_cons_left_iff.1 hshows
    have hi := his i List.mem_cons_self
    obtain rfl : i.node = n := Option.some.inj ((mem_items_iff.1 hi).symm.trans hn)
    have hspan := horder'.inside i.node List.mem_cons_self
    rw [hpatches.patched_eq d.source horder (mem_children_of_mem_items hi)] at hbytes
    refine .cons hspan.1 (hpatches.ordered_strip hspan.2.1) hbytes (fun slot hmem => ?_) (fun hnone => ?_)
      (ih (fun j hj => his j (List.mem_cons_of_mem i hj)) horder'.tail hqs hrest)
    · obtain rfl : i.slot = slot := Option.some.inj (hslot.symm.trans hmem)
      exact ⟨rfl, rfl⟩
    · rw [hslot] at hnone
      cases hnone

/-- So do the pieces above and below another one, which prints the text of a cut. -/
theorem laid_around {above below : List Item} (habove : ∀ i ∈ above, i ∈ items d.root)
    (hbelow : ∀ i ∈ below, i ∈ items d.root) {place : Place} {q : Patch} {ps : List Piece} {start : Nat}
    (habove' : Node.InOrder start hi (above.map Item.node)) (hbelow' : Node.InOrder q.stop hi (below.map Item.node))
    (hshows : List.Forall₂ (d.Shows t decl) (above.map Item.place ++ place :: below.map Item.place) ps)
    (hstart : stopAfter start above ≤ q.start) (hspan : q.start ≤ q.stop)
    (htext : ∀ p, d.Shows t decl place p → p.bytes = q.text)
    (hold : ∀ slot ∈ place.slot, slot.start = q.start ∧ slot.stop = q.stop)
    (hnew : place.slot = none → q.stop = stopAfter start above) :
    Strip.Laid d.source start (stopAfter q.stop below)
      ((above.map fun i => i.node.strip (d.patches t)) ++ q.strip ::
        below.map fun i => i.node.strip (d.patches t)) ps := by
  refine laid_items hpatches horder habove habove' hshows fun rest hrest => ?_
  obtain ⟨p, qs, hp, hqs, rfl⟩ := List.forall₂_cons_left_iff.1 hrest
  have hbytes := (htext p hp).trans (Patch.edited_strip d.source q).symm
  refine .cons hstart ⟨Nat.le_refl _, hspan, Nat.le_refl _⟩ hbytes (hp.1 ▸ hold) (hp.1 ▸ hnew) ?_
  rw [← List.append_nil (below.map _)] at hqs ⊢
  refine laid_items hpatches horder hbelow hbelow' hqs fun qs hqs => ?_
  obtain rfl := List.forall₂_nil_left_iff.1 hqs
  exact .nil _

end Laid

/-! ## From strips to cuts -/

/-- The strips of a file: its items with the patches in them. An import may be printed in the place of one, or between
two of them. -/
structure Stripped (root : Node) (ps : List Patch) (merged : Option Patch) (text : Bytes) (ss : List Strip) : Prop where
  items : ∀ n ∈ root.children, n.strip ps ∈ ss ∨ ∃ q ∈ merged, q.start = n.start ∧ q.stop = n.stop
  anew : ∀ q ∈ merged, q.strip ∈ ss
  only : ∀ s ∈ ss, (∃ n ∈ root.children, s = n.strip ps) ∨ ∃ q : Patch, s = q.strip ∧
    (q ∈ merged ∨ q.text = text ∧ ∀ n ∈ root.children, q.stop ≤ n.start ∨ n.stop ≤ q.start)

/-- The cuts that make the text of a document out of its file: the patches, an import that is written anew, and else only
line ends and one import between the items. -/
structure Rewritten (src : Bytes) (root : Node) (ps : List Patch) (merged : Option Patch) (text : Bytes)
    (cuts : List Patch) : Prop where
  ordered : Patch.Ordered 0 src.length cuts
  patches : ∀ p ∈ ps, p ∈ cuts ∨ ∃ q ∈ merged, q.start ≤ p.start ∧ p.stop ≤ q.stop
  anew : ∀ q ∈ merged, q ∈ cuts
  only : ∀ c ∈ cuts, c ∈ ps ∨ c ∈ merged ∨ (∀ n ∈ root.children, c.stop ≤ n.start ∨ n.stop ≤ c.start) ∧
    (c.text = src.newline ∨ c.text = src.slice c.start c.stop ∨ c.text = text)

/-- Some cuts make the text of the document. -/
def Rewrites (ps : List Patch) (merged : Option Patch) (text : Bytes) (out : Bytes) (d : Document) : Prop :=
  ∃ cuts, Rewritten d.source d.root ps merged text cuts ∧ out = d.source.edited 0 d.source.length cuts

section Strips
variable {d : Document} {ps : List Patch} {merged : Option Patch} {text out : Bytes} {ss : List Strip}
  {pieces : List Piece}

theorem rewrites_of_laid (hps : Fitted d.root ps) (hlaid : Strip.Laid d.source d.bodyStart d.bodyStop ss pieces)
    (hfirst : ∀ s ∈ ss.head?, s.start = d.bodyStart) (hstop : d.bodyStop ≤ d.source.length)
    (hss : Stripped d.root ps merged text ss)
    (hout : out = d.source.take d.bodyStart ++ Piece.row d.source pieces ++ d.source.drop d.bodyStop) :
    d.Rewrites ps merged text out := by
  obtain ⟨cuts, hcuts, hrow, hjoined⟩ := hlaid.row hfirst
  have hbefore : Patch.Ordered 0 d.bodyStart [] := Nat.zero_le _
  have hbehind : Patch.Ordered d.bodyStop d.source.length [] := hstop
  have htake : d.source.take d.bodyStart = d.source.edited 0 d.bodyStart [] := by simp [Bytes.edited, Bytes.slice]
  have hdrop : d.source.drop d.bodyStop = d.source.edited d.bodyStop d.source.length [] := by
    simp [Bytes.edited, Bytes.slice]
  refine ⟨cuts, ⟨?_, ?_, ?_, ?_⟩, ?_⟩
  · simpa using (hbefore.append hcuts).append hbehind
  · intro p hp
    obtain ⟨n, hn, hinside⟩ := hps.inside p hp
    rcases hss.items n hn with hstrip | ⟨q, hq, hstart, hstop⟩
    · exact .inl (hjoined.own _ hstrip p (Node.mem_strip.2 ⟨hp, hinside⟩))
    · exact .inr ⟨q, hq, by omega⟩
  · intro q hq
    exact hjoined.own _ (hss.anew q hq) q (List.mem_singleton_self q)
  · intro c hc
    rcases hjoined.other c hc with ⟨s, hs, hcs⟩ | hjoins
    · rcases hss.only s hs with ⟨n, -, rfl⟩ | ⟨q, rfl, hq⟩
      · exact .inl (Node.mem_strip.1 hcs).1
      · obtain rfl := List.mem_singleton.1 hcs
        exact .inr (hq.imp_right fun hnew => ⟨hnew.2, .inr (.inr hnew.1)⟩)
    · refine .inr (.inr ⟨fun n hn => ?_, hjoins.2.imp_right .inl⟩)
      rcases hss.items n hn with hstrip | ⟨q, hq, hstart, hstop⟩
      · exact hjoins.1 _ hstrip
      · have hapart : c.stop ≤ q.start ∨ q.stop ≤ c.start := hjoins.1 _ (hss.anew q hq)
        omega
  · rw [hout, hrow, htake, hdrop, Bytes.edited_append hbefore hcuts,
      Bytes.edited_append (hbefore.append hcuts) hbehind, List.nil_append, List.append_nil]

theorem mem_around {α β : Type} {f : α → β} {above below : List α} {b b' : β} :
    b' ∈ above.map f ++ b :: below.map f ↔ b' = b ∨ ∃ a ∈ above ++ below, f a = b' := by
  simp only [List.mem_append, List.mem_cons, List.mem_map, or_and_right, exists_or]
  exact or_left_comm

/-- Items with an import between them, or in the place of one more. -/
theorem stripped_around {root : Node} {above below : List Item} {q : Patch}
    (hmem : ∀ i ∈ above ++ below, i.node ∈ root.children)
    (hitems : ∀ n ∈ root.children,
      (∃ i ∈ above ++ below, i.node = n) ∨ ∃ q ∈ merged, q.start = n.start ∧ q.stop = n.stop)
    (hmerged : ∀ q' ∈ merged, q' = q)
    (hq : q ∈ merged ∨ q.text = text ∧ ∀ n ∈ root.children, q.stop ≤ n.start ∨ n.stop ≤ q.start) :
    Stripped root ps merged text
      ((above.map fun i => i.node.strip ps) ++ q.strip :: below.map fun i => i.node.strip ps) := by
  refine ⟨fun n hn => ?_, fun q' hq' => mem_around.2 (.inl (by rw [hmerged q' hq'])), fun s hs => ?_⟩
  · refine (hitems n hn).imp_left ?_
    rintro ⟨i, hi, rfl⟩
    exact mem_around.2 (.inr ⟨i, hi, rfl⟩)
  · rcases mem_around.1 hs with rfl | ⟨i, hi, rfl⟩
    · exact .inr ⟨q, rfl, hq⟩
    · exact .inl ⟨i.node, hmem i hi, rfl⟩

/-! ## The three ways -/

variable {t : Target} {decl : ImportDecl} (hframed : d.Framed)
include hframed

theorem Framed.inOrder_items {hi : Nat} (h : Node.InOrder 0 hi d.root.children) :
    Node.InOrder d.bodyStart hi ((items d.root).map Item.node) := by
  rw [hframed.bodyStart, map_node_items]
  cases hchildren : d.root.children with
  | nil => exact ⟨by simp, .nil⟩
  | cons n ns =>
    rw [hchildren] at h
    have hn := h.inside n List.mem_cons_self
    exact Node.InOrder.cons (Nat.le_refl _) hn.2.1 hn.2.2 h.tail

theorem Framed.bodyStart_eq {i : Item} {is : List Item} (h : items d.root = i :: is) : i.node.start = d.bodyStart := by
  rw [hframed.bodyStart, ← map_node_items, h]
  rfl

theorem Framed.bodyStop_eq : stopAfter d.bodyStart (items d.root) = d.bodyStop := by
  rw [stopAfter_eq_getLast?, map_node_items, hframed.bodyStop, hframed.bodyStart]
  cases d.root.children with
  | nil => rfl
  | cons n ns => simp [List.getLast?_cons]

theorem Framed.bodyStop_le {hi : Nat} (h : Node.InOrder 0 hi d.root.children) : d.bodyStop ≤ hi := by
  rw [hframed.bodyStop]
  cases hlast : d.root.children.getLast? with
  | none => exact Nat.zero_le _
  | some n => exact (h.inside n (List.mem_of_getLast? hlast)).2.2

variable (hpatches : Fitted d.root (d.patches t)) (horder : Node.InOrder 0 d.source.length d.root.children)
  (hout : out = d.source.take d.bodyStart ++ Piece.row d.source pieces ++ d.source.drop d.bodyStop)
include hpatches horder hout

/-- Nothing but the patches, if every item still prints in its place. -/
theorem rewrites_same (text : Bytes)
    (hshows : List.Forall₂ (d.Shows t decl) ((items d.root).map Item.place) pieces) :
    d.Rewrites (d.patches t) none text out := by
  have hlaid : Strip.Laid d.source d.bodyStart d.bodyStop
      (((items d.root).map fun i => i.node.strip (d.patches t)) ++ []) pieces := by
    rw [← List.append_nil ((items d.root).map Item.place)] at hshows
    refine laid_items hpatches horder (fun _ hi => hi) (hframed.inOrder_items horder) hshows fun qs hqs => ?_
    obtain rfl := List.forall₂_nil_left_iff.1 hqs
    rw [hframed.bodyStop_eq]
    exact .nil _
  rw [List.append_nil] at hlaid
  refine rewrites_of_laid hpatches hlaid ?_ (hframed.bodyStop_le horder) ⟨?_, by simp, ?_⟩ hout
  · intro s hs
    rw [List.head?_map] at hs
    obtain ⟨i, hi, rfl⟩ := Option.map_eq_some_iff.1 hs
    obtain ⟨is, his⟩ := List.head?_eq_some_iff.1 hi
    exact hframed.bodyStart_eq his
  · intro n hn
    rw [← map_node_items] at hn
    obtain ⟨i, hi, rfl⟩ := List.mem_map.1 hn
    exact .inl (List.mem_map_of_mem hi)
  · intro s hs
    obtain ⟨i, hi, rfl⟩ := List.mem_map.1 hs
    exact .inl ⟨i.node, mem_children_of_mem_items hi, rfl⟩

section Around
variable {above below : List Item}

omit hpatches horder hout in
theorem Framed.first_around {s : Strip} {ss : List Strip} (hitems : ∃ is, items d.root = above ++ is)
    (hs : above = [] → s.start = d.bodyStart) :
    ∀ s' ∈ ((above.map fun i => i.node.strip ps) ++ s :: ss).head?, s'.start = d.bodyStart := by
  obtain ⟨is, hitems⟩ := hitems
  cases above with
  | nil => exact fun s' hs' => Option.some.inj hs' ▸ hs rfl
  | cons i above => exact fun s' hs' => Option.some.inj hs' ▸ hframed.bodyStart_eq hitems

/-- An import between two items. -/
theorem rewrites_inserted (hitems : items d.root = above ++ below)
    (hshows : List.Forall₂ (d.Shows t decl) (above.map Item.place ++ ⟨none, false⟩ :: below.map Item.place) pieces) :
    d.Rewrites (d.patches t) none (Bytes.ofString decl.print) out := by
  have hinside := hframed.inOrder_items horder
  rw [hitems] at hinside
  have hmem : ∀ i ∈ above ++ below, i ∈ items d.root := fun i hi => hitems ▸ hi
  have habove := hinside.sublist ((List.sublist_append_left above below).map Item.node)
  generalize hpos : stopAfter d.bodyStart above = pos
  have hlaid := laid_around (q := ⟨pos, pos, Bytes.ofString decl.print⟩) hpatches horder
    (fun i hi => hmem i (List.mem_append_left _ hi)) (fun i hi => hmem i (List.mem_append_right _ hi)) habove
    (hpos ▸ inOrder_stopAfter hinside) hshows (Nat.le_of_eq hpos) (Nat.le_refl _) (fun p hp => hp.2) (fun _ h => nomatch h)
    (fun _ => hpos.symm)
  have hstop : stopAfter pos below = d.bodyStop := by
    rw [← hframed.bodyStop_eq, hitems, stopAfter_append, hpos]
  rw [hstop] at hlaid
  refine rewrites_of_laid hpatches hlaid (hframed.first_around ⟨below, hitems⟩ fun hnil => ?_)
    (hframed.bodyStop_le horder) (stripped_around (fun i hi => mem_children_of_mem_items (hmem i hi)) (fun n hn => ?_)
      (by simp) (.inr ⟨rfl, fun n hn => ?_⟩)) hout
  · rw [← hpos, hnil]
    rfl
  · rw [← map_node_items, hitems] at hn
    exact .inl (List.mem_map.1 hn)
  · -- strips of one row stand apart
    have hapart := List.pairwise_append.1 hlaid.pairwise
    rw [← map_node_items, hitems] at hn
    obtain ⟨i, hi, rfl⟩ := List.mem_map.1 hn
    rcases List.mem_append.1 hi with hi | hi
    · exact .inr (hapart.2.2 _ (List.mem_map_of_mem hi) _ List.mem_cons_self)
    · exact .inl ((List.pairwise_cons.1 hapart.2.1).1 _ (List.mem_map_of_mem hi))

/-- An import in the place of an item. -/
theorem rewrites_merged (text : Bytes) {i : Item} (hitems : items d.root = above ++ i :: below)
    (hshows : List.Forall₂ (d.Shows t decl) (above.map Item.place ++ ⟨some i.slot, false⟩ :: below.map Item.place)
      pieces) :
    d.Rewrites (d.patches t) (some ⟨i.node.start, i.node.stop, Bytes.ofString decl.print⟩) text out := by
  have hinside := hframed.inOrder_items horder
  rw [hitems] at hinside
  have hmem : ∀ j ∈ above ++ below, j ∈ items d.root := fun j hj => by
    rw [hitems]
    exact (List.Sublist.append_left (List.sublist_cons_self i below) above).subset hj
  have habove := hinside.sublist ((List.sublist_append_left above (i :: below)).map Item.node)
  have hbelow := inOrder_stopAfter hinside
  have hspan := hbelow.inside i.node List.mem_cons_self
  have hlaid := laid_around (q := ⟨i.node.start, i.node.stop, Bytes.ofString decl.print⟩) hpatches horder
    (fun j hj => hmem j (List.mem_append_left _ hj)) (fun j hj => hmem j (List.mem_append_right _ hj)) habove
    hbelow.tail hshows hspan.1 hspan.2.1 (fun p hp => hp.2) (fun slot h => Option.some.inj h ▸ ⟨rfl, rfl⟩)
    (fun h => nomatch h)
  have hstop : stopAfter i.node.stop below = d.bodyStop := by
    rw [← hframed.bodyStop_eq, hitems, stopAfter_append, stopAfter]
  rw [hstop] at hlaid
  refine rewrites_of_laid hpatches hlaid (hframed.first_around ⟨i :: below, hitems⟩ fun hnil => ?_)
    (hframed.bodyStop_le horder) (stripped_around (fun j hj => mem_children_of_mem_items (hmem j hj)) (fun n hn => ?_)
      (fun q hq => (Option.some.inj hq).symm) (.inl rfl)) hout
  · rw [hnil] at hitems
    exact hframed.bodyStart_eq hitems
  · rw [← map_node_items, hitems] at hn
    obtain ⟨j, hj, rfl⟩ := List.mem_map.1 hn
    rw [List.mem_append, List.mem_cons, or_left_comm] at hj
    rcases hj with rfl | hj
    · exact .inr ⟨_, rfl, rfl, rfl⟩
    · exact .inl ⟨j, List.mem_append.2 hj, rfl⟩

end Around
end Strips

/-- The places of a document in which an import may stand between two items of the file, or in the place of one. -/
inductive Arranged (root : Node) (decl : ImportDecl) (text : Bytes) : Option Patch → List Place → Prop where
  | same : Arranged root decl text none ((items root).map Item.place)
  | inserted {above below : List Item} (hitems : items root = above ++ below) (htext : Bytes.ofString decl.print = text) :
    Arranged root decl text none (above.map Item.place ++ ⟨none, false⟩ :: below.map Item.place)
  | merged {above below : List Item} {i : Item} (hitems : items root = above ++ i :: below) :
    Arranged root decl text (some ⟨i.node.start, i.node.stop, Bytes.ofString decl.print⟩)
      (above.map Item.place ++ ⟨some i.slot, false⟩ :: below.map Item.place)

theorem Kept.rewrites {d : Document} {code : String} {t : Target} {decl : ImportDecl} {merged : Option Patch}
    {text out : Bytes} (hkept : d.Kept d.source d.root (d.patches t) decl) (hroot : d.root.WellFormed code)
    (hsource : d.source = Bytes.ofString code) (hproper : ∀ c ∈ CallSite.all d.source t d.root, c.Proper)
    (hplaces : Arranged d.root decl text merged d.places) (hrender : d.renderBytes = .ok out) :
    d.Rewrites (d.patches t) merged text out := by
  obtain ⟨pieces, hpieces, hout⟩ := Failure.bind_eq_ok_iff.1 hrender
  have hout := (Except.ok.inj hout).symm
  have hpatches : Fitted d.root (d.patches t) := by
    rw [patches, ambientCalls_eq]
    exact Session.fitted_ambientCalls hroot hproper
  have horder := hroot.inOrder_children
  rw [← hsource] at horder
  have hshows := hkept.shows (fun i hi hcomment => by
    rw [patches, ambientCalls_eq]
    exact Session.patched_comment hroot hproper hi hcomment) hpieces
  generalize d.places = places at hplaces hshows
  cases hplaces with
  | same => exact rewrites_same hkept.toFramed hpatches horder hout text hshows
  | inserted hitems htext => exact htext ▸ rewrites_inserted hkept.toFramed hpatches horder hout hitems hshows
  | merged hitems => exact rewrites_merged hkept.toFramed hpatches horder hout text hitems hshows

end Document
end CallRedirect
