import CallRedirect.Proofs.Places

/-! # What the text of a document is put together from

Ensuring an import and redirecting calls leave a document made of the comments and statements of its file, of the callees
put into them, and of imports that were written. So its text is put together out of windows of the file, line ends,
callees and imports, and what holds of all of these holds of the text. The windows matter: a comment and what stands
behind it are one window as long as nothing comes between them, and a new import opens the file behind the last item
above it.

* `Piece.good_row`: what holds of the pieces of a row and of what stands between them.
* `Document.Made`: the comments and statements of a document, and where they come from.
* `Document.Made.good_renderBytes`: what holds of the text of a document.
* `Document.Made.render`: such a document prints, if its replacements can be carried out.
* `Document.Made.ensured`, `Document.Made.marked`: what keeps it up. -/

namespace CallRedirect
set_option autoImplicit false

/-! ## Rows -/

/-- Where a piece has no slot, the file may be opened behind the last slot before it. -/
def Slot.Anchored (opens : Nat → Prop) : Option Slot → List (Option Slot) → Prop
  | _, [] => True
  | anchor, slot :: slots =>
    (slot = none → ∀ a, anchor = some a → opens a.stop) ∧ Anchored opens (slot.or anchor) slots

/-- The last of some slots, or the one before them. -/
def Slot.last (anchor : Option Slot) (slots : List (Option Slot)) : Option Slot :=
  slots.foldl (fun a slot => slot.or a) anchor

theorem Slot.last_cons (anchor slot : Option Slot) (slots : List (Option Slot)) :
    last anchor (slot :: slots) = last (slot.or anchor) slots := rfl

theorem Slot.last_eq (anchor : Option Slot) (slots : List (Option Slot)) :
    last anchor slots = (slots.filterMap id).getLast?.or anchor := by
  induction slots generalizing anchor with
  | nil => simp [last]
  | cons slot slots ih =>
    rw [last_cons, ih]
    cases slot with
    | none => simp
    | some s =>
      have hcons : (some s :: slots).filterMap id = s :: slots.filterMap id := List.filterMap_cons_some rfl
      rw [Option.some_or, hcons, List.getLast?_cons, Option.some_or]
      cases (slots.filterMap id).getLast? <;> rfl

namespace Piece

/-- The piece is good, and so it is with what stands behind its slot. -/
structure Fits (src : Bytes) (closes : Nat → Prop) (good : Bytes → Prop) (p : Piece) : Prop where
  alone : good p.bytes
  start : ∀ slot, p.slot = some slot → closes slot.start
  follow : ∀ slot, p.slot = some slot → ∀ stop, closes stop → good (p.bytes ++ src.slice slot.stop stop)

section Rows
variable {src : Bytes} {opens closes : Nat → Prop} {good : Bytes → Prop} (hwoven : src.Woven opens closes good)
  (hnewline : good src.newline)
include hwoven hnewline

theorem good_separator {p q : Piece} {anchor : Option Slot} (hp : p.Fits src closes good) (hq : q.Fits src closes good)
    (hslot : ∀ slot, p.slot = some slot → anchor = some slot)
    (hopens : p.slot = none → ∀ a, anchor = some a → opens a.stop) : good (p.bytes ++ separator src p q anchor) := by
  rcases separator_cases src p q anchor with hline | ⟨left, right, hleft, hright, hgap⟩
  · rw [hline]
    exact hwoven.append hp.alone hnewline
  · rw [hgap]
    have hcloses := hq.start right hright
    cases hown : p.slot with
    | some slot =>
      have hanchor := hslot slot hown
      have heq : slot = left := by
        rcases hleft with hleft | hleft
        · exact Option.some.inj (hown.symm.trans hleft)
        · exact Option.some.inj (hanchor.symm.trans hleft)
      exact heq ▸ hp.follow slot hown right.start hcloses
    | none =>
      have hanchor : anchor = some left := hleft.resolve_left (by simp [hown])
      exact hwoven.append hp.alone (hwoven.window (hopens hown left hanchor) hcloses)

/-- The pieces after the first, and the file behind the last slot. -/
theorem good_continued {p : Piece} {ps : List Piece} {anchor : Option Slot} {stop : Nat}
    (hp : p.Fits src closes good) (hps : ∀ q ∈ ps, q.Fits src closes good)
    (hslot : ∀ slot, p.slot = some slot → anchor = some slot)
    (hopens : p.slot = none → ∀ a, anchor = some a → opens a.stop)
    (hanchored : Slot.Anchored opens anchor (ps.map Piece.slot)) (hfirst : opens 0) (hstop : closes stop) :
    good (p.bytes ++ (continued src p anchor ps ++
      src.slice (((Slot.last anchor (ps.map Piece.slot)).map Slot.stop).getD 0) stop)) := by
  induction ps generalizing p anchor with
  | nil =>
    show good (p.bytes ++ src.slice ((anchor.map Slot.stop).getD 0) stop)
    cases hown : p.slot with
    | some slot =>
      rw [hslot slot hown]
      exact hp.follow slot hown stop hstop
    | none =>
      have hopen : opens ((anchor.map Slot.stop).getD 0) := by
        cases hanchor : anchor with
        | none => exact hfirst
        | some a => exact hopens hown a hanchor
      exact hwoven.append hp.alone (hwoven.window hopen hstop)
  | cons q ps ih =>
    have hq := hps q List.mem_cons_self
    have hrest := @ih q (q.slot.or anchor) hq (fun r hr => hps r (List.mem_cons_of_mem q hr))
      (fun slot h => by rw [h, Option.some_or]) (fun h => by rw [h, Option.none_or]; exact hanchored.1 h) hanchored.2
    have hsplit : p.bytes ++ (continued src p anchor (q :: ps) ++
        src.slice (((Slot.last anchor ((q :: ps).map Piece.slot)).map Slot.stop).getD 0) stop) =
        (p.bytes ++ separator src p q anchor) ++ (q.bytes ++ (continued src q (q.slot.or anchor) ps ++
          src.slice (((Slot.last (q.slot.or anchor) (ps.map Piece.slot)).map Slot.stop).getD 0) stop)) := by
      simp only [continued, List.append_assoc]
      rfl
    rw [hsplit]
    exact hwoven.append (good_separator hwoven hnewline hp hq hslot hopens) hrest

/-- A row of pieces, and the file behind the last slot. -/
theorem good_row {ps : List Piece} {stop : Nat} (hps : ∀ p ∈ ps, p.Fits src closes good)
    (hanchored : Slot.Anchored opens none (ps.map Piece.slot)) (hfirst : opens 0) (hstop : closes stop) :
    good (row src ps ++ src.slice (((Slot.last none (ps.map Piece.slot)).map Slot.stop).getD 0) stop) := by
  cases ps with
  | nil => exact hwoven.window hfirst hstop
  | cons p ps =>
    have hp := hps p List.mem_cons_self
    have hrest : Slot.Anchored opens (p.slot.or none) (ps.map Piece.slot) := hanchored.2
    rw [row, List.append_assoc, List.map_cons, Slot.last_cons]
    rw [Option.or_none] at hrest ⊢
    exact good_continued hwoven hnewline hp (fun q hq => hps q (List.mem_cons_of_mem p hq)) (fun _ h => h)
      (fun hnone a ha => by rw [hnone] at ha; cases ha) hrest hfirst hstop

end Rows
end Piece

/-! ## Documents -/

/-- The statement is one of the file, with replacements in it, or an import that was written. -/
structure Statement.Made (root : Node) (replaced : Replacement → Prop) (written : ImportDecl → Prop) (s : Statement) :
    Prop where
  comments : ∀ c ∈ s.leading ++ s.trailing, c.Kept root
  slot : ∀ slot, s.slot = some slot → ∃ i ∈ Document.items root, i.isComment = false ∧ i.slot = slot
  verbatim : s.verbatim = true → s.slot.isSome = true
  anew : s.verbatim = false → ∃ decl, s.form = .importing decl ∧ written decl
  replacements : ∀ r ∈ s.replacements, replaced r

namespace Document

/-- The comments and statements are those of the file, in their order, with replacements in them; imports may be put in,
or stand for some of the file. -/
structure Made (src : Bytes) (root : Node) (replaced : Replacement → Prop) (written : ImportDecl → Prop) (d : Document) :
    Prop extends Framed d where
  source : d.source = src
  tree : d.root = root
  comments : ∀ c ∈ d.comments, c.Kept root
  statements : ∀ s ∈ d.statements, s.Made root replaced written
  slots : d.places.filterMap Place.slot = (items root).map Item.slot

/-- The file may be opened where a node starts and where a node other than a comment stops, and closed where any node
does. -/
structure Woven (src : Bytes) (root : Node) (opens closes : Nat → Prop) (good : Bytes → Prop) : Prop extends
    src.Woven opens closes good where
  newline : good src.newline
  first : opens 0 ∧ closes 0
  last : closes src.length
  starts : ∀ n ∈ root.nodes, opens n.start ∧ closes n.start
  stops : ∀ n ∈ root.nodes, closes n.stop ∧ (n.isComment = false → opens n.stop)

/-! ## Printing -/

theorem exists_of_mem_mapM {α β : Type} {f : α → Except Failure β} {l : List α} {bs : List β} (h : l.mapM f = .ok bs)
    {b : β} (hb : b ∈ bs) : ∃ a ∈ l, f a = .ok b := by
  obtain ⟨hlength, hget⟩ := List.forall₂_iff_get.1 (forall₂_mapM h)
  obtain ⟨j, hj, rfl⟩ := List.mem_iff_getElem.1 hb
  exact ⟨l[j], List.getElem_mem _, hget j (hlength ▸ hj) hj⟩

theorem mem_nodes_of_mem_items {root : Node} {i : Item} (hi : i ∈ items root) : i.node ∈ root.nodes :=
  Node.child_mem_nodes (mem_children_of_mem_items hi)

section Pieces
variable {src : Bytes} {root : Node} {replaced : Replacement → Prop} {written : ImportDecl → Prop} {d : Document}
  {ps : List Piece}

theorem map_slot_pieces (hps : d.pieces = .ok ps) : ps.map Piece.slot = d.places.map Place.slot := by
  rw [← List.forall₂_eq_eq_eq, List.forall₂_map_left_iff, List.forall₂_map_right_iff]
  exact (slot_pieces hps).flip

/-- A piece is a comment of the file, or the text of a statement. -/
theorem Made.mem_pieces (h : d.Made src root replaced written) (hps : d.pieces = .ok ps) {p : Piece} (hp : p ∈ ps) :
    (∃ (c : Comment) (placement : Placement), c.Kept root ∧ p = Piece.ofComment src placement c) ∨
      ∃ (s : Statement) (bytes : Bytes), s.Made root replaced written ∧ s.render src = .ok bytes ∧
        p = ⟨bytes, s.slot, false⟩ := by
  obtain ⟨pss, hpss, hps⟩ := Failure.bind_eq_ok_iff.1 hps
  obtain rfl := Except.ok.inj hps
  rw [h.source] at hpss hp
  rcases List.mem_append.1 hp with hp | hp
  · obtain ⟨c, hc, rfl⟩ := List.mem_map.1 hp
    exact .inl ⟨c, _, h.comments c hc, rfl⟩
  · obtain ⟨ps, hps, hp⟩ := List.mem_flatten.1 hp
    obtain ⟨s, hs, hpieces⟩ := exists_of_mem_mapM hpss hps
    have hmade := h.statements s hs
    rw [Statement.pieces] at hpieces
    cases hrender : s.render src with
    | error e =>
      rw [hrender] at hpieces
      cases hpieces
    | ok bytes =>
      rw [hrender] at hpieces
      obtain rfl := Except.ok.inj hpieces
      rw [List.mem_append, List.mem_cons] at hp
      rcases hp with hp | rfl | hp
      · obtain ⟨c, hc, rfl⟩ := List.mem_map.1 hp
        exact .inl ⟨c, _, hmade.comments c (List.mem_append_left _ hc), rfl⟩
      · exact .inr ⟨s, bytes, hmade, hrender, rfl⟩
      · obtain ⟨c, hc, rfl⟩ := List.mem_map.1 hp
        exact .inl ⟨c, _, hmade.comments c (List.mem_append_right _ hc), rfl⟩

end Pieces

section Printing
variable {src : Bytes} {root : Node} {replaced : Replacement → Prop} {written : ImportDecl → Prop} {d : Document}
  {opens closes : Nat → Prop} {good : Bytes → Prop} (hwoven : Woven src root opens closes good)
include hwoven

theorem Woven.good_render (hreplaced : ∀ r, replaced r → r.Fits opens closes good)
    (hwritten : ∀ decl, written decl → good (Bytes.ofString decl.print)) {s : Statement} (hs : s.Made root replaced written)
    {b : Bytes} (h : s.render src = .ok b) : good b := by
  unfold Statement.render at h
  cases hverbatim : s.verbatim with
  | true =>
    obtain ⟨slot, hslot⟩ := Option.isSome_iff_exists.1 (hs.verbatim hverbatim)
    obtain ⟨i, hi, -, rfl⟩ := hs.slot slot hslot
    have hn := mem_nodes_of_mem_items hi
    rw [hverbatim, hslot] at h
    dsimp only at h
    split at h
    · next bytes hsplice =>
      obtain rfl := Except.ok.inj h
      exact Replacement.good_spliceTo hwoven.toWoven (fun r hr => hreplaced r (hs.replacements r hr))
        (hwoven.starts _ hn).1 (hwoven.stops _ hn).1 hsplice
    · cases h
  | false =>
    obtain ⟨decl, hform, hdecl⟩ := hs.anew hverbatim
    rw [hverbatim] at h
    dsimp only at h
    rw [Statement.generate, hform] at h
    obtain rfl := Except.ok.inj h
    exact hwritten decl hdecl

variable (horder : Node.InOrder 0 src.length root.children)
include horder

/-- A comment and what stands behind it are one window. -/
theorem Woven.fits_ofComment {c : Comment} (hc : c.Kept root) (placement : Placement) :
    (Piece.ofComment src placement c).Fits src closes good := by
  obtain ⟨i, hi, -, hslot⟩ := hc
  have hn := mem_nodes_of_mem_items hi
  have hbytes : (Piece.ofComment src placement c).bytes = src.slice i.node.start i.node.stop := by
    show c.bytes src = _
    rw [Comment.bytes, hslot]
    rfl
  have hown {slot : Slot} (h : (Piece.ofComment src placement c).slot = some slot) : slot = i.slot :=
    Option.some.inj (h.symm.trans hslot)
  have halone := hwoven.window (hwoven.starts _ hn).1 (hwoven.stops _ hn).1
  refine ⟨hbytes ▸ halone, fun slot h => hown h ▸ (hwoven.starts _ hn).2, fun slot h stop hstop => ?_⟩
  rw [hbytes, hown h]
  show good (src.slice i.node.start i.node.stop ++ src.slice i.node.stop stop)
  by_cases hle : i.node.stop ≤ stop
  · rw [src.slice_append_slice (horder.inside i.node (mem_children_of_mem_items hi)).2.1 hle]
    exact hwoven.window (hwoven.starts _ hn).1 hstop
  · have hnil : src.slice i.node.stop stop = [] := by
      simp only [Bytes.slice, List.drop_eq_nil_iff, List.length_take]
      omega
    rwa [hnil, List.append_nil]

variable (hreplaced : ∀ r, replaced r → r.Fits opens closes good)
  (hwritten : ∀ decl, written decl → good (Bytes.ofString decl.print))
include hreplaced hwritten

theorem Made.fits (h : d.Made src root replaced written) {ps : List Piece} (hps : d.pieces = .ok ps) :
    ∀ p ∈ ps, p.Fits src closes good := by
  intro p hp
  rcases h.mem_pieces hps hp with ⟨c, placement, hc, rfl⟩ | ⟨s, bytes, hs, hrender, rfl⟩
  · exact hwoven.fits_ofComment horder hc placement
  · have hgood := hwoven.good_render hreplaced hwritten hs hrender
    refine ⟨hgood, fun slot hslot => ?_, fun slot hslot stop hstop => ?_⟩
    · obtain ⟨i, hi, -, rfl⟩ := hs.slot slot hslot
      exact (hwoven.starts _ (mem_nodes_of_mem_items hi)).2
    · obtain ⟨i, hi, hstatement, rfl⟩ := hs.slot slot hslot
      exact hwoven.append hgood (hwoven.window ((hwoven.stops _ (mem_nodes_of_mem_items hi)).2 hstatement) hstop)

/-- What holds of the windows of a file, of line ends, of callees and of written imports, holds of the text of a document
that is made of these. -/
theorem Made.good_renderBytes (h : d.Made src root replaced written)
    (hanchored : Slot.Anchored opens none (d.places.map Place.slot)) {out : Bytes} (hout : d.renderBytes = .ok out) :
    good out := by
  obtain ⟨ps, hps, hout⟩ := Failure.bind_eq_ok_iff.1 hout
  obtain rfl := Except.ok.inj hout
  have hslots := map_slot_pieces hps
  have hstop : ((Slot.last none (ps.map Piece.slot)).map Slot.stop).getD 0 = d.bodyStop := by
    rw [Slot.last_eq, hslots, List.filterMap_map, Function.id_comp, h.slots, Option.or_none, h.bodyStop, h.tree,
      ← map_node_items, List.getLast?_map, List.getLast?_map, Option.map_map, Option.map_map]
    rfl
  have hfits := Made.fits hwoven horder hreplaced hwritten h hps
  have hrow := Piece.good_row hwoven.toWoven hwoven.newline hfits (hslots ▸ hanchored) hwoven.first.1 hwoven.last
  have hdrop : src.slice d.bodyStop src.length = src.drop d.bodyStop := by rw [Bytes.slice, List.take_length]
  rw [hstop, hdrop] at hrow
  rw [h.source, List.append_assoc]
  refine hwoven.append ?_ hrow
  have hstart : closes d.bodyStart := by
    rw [h.bodyStart, h.tree]
    cases hhead : root.children.head? with
    | none => exact hwoven.first.2
    | some n => exact (hwoven.starts n (Node.child_mem_nodes (List.mem_of_head? hhead))).2
  have hwindow := hwoven.window hwoven.first.1 hstart
  rwa [Bytes.slice, List.drop_zero] at hwindow

end Printing

theorem anchored_of_forall {opens : Nat → Prop} {anchor : Option Slot} {slots : List (Option Slot)}
    (hanchor : ∀ a, anchor = some a → opens a.stop) (hslots : ∀ slot, some slot ∈ slots → opens slot.stop) :
    Slot.Anchored opens anchor slots := by
  induction slots generalizing anchor with
  | nil => trivial
  | cons slot slots ih =>
    refine ⟨fun _ => hanchor, ih (fun a ha => ?_) fun s hs => hslots s (List.mem_cons_of_mem _ hs)⟩
    rcases Option.or_eq_some_iff.1 ha with ha | ⟨-, ha⟩
    · exact hslots a (ha ▸ List.mem_cons_self)
    · exact hanchor a ha

theorem Made.anchored {src : Bytes} {root : Node} {replaced : Replacement → Prop} {written : ImportDecl → Prop}
    {d : Document} {opens : Nat → Prop} (h : d.Made src root replaced written)
    (hopens : ∀ n ∈ root.children, opens n.stop) : Slot.Anchored opens none (d.places.map Place.slot) := by
  refine anchored_of_forall nofun fun slot hslot => ?_
  have hmem : slot ∈ d.places.filterMap Place.slot := List.mem_filterMap.2 (List.mem_map.1 hslot)
  rw [h.slots] at hmem
  obtain ⟨i, hi, rfl⟩ := List.mem_map.1 hmem
  exact hopens i.node (mem_children_of_mem_items hi)

theorem woven_isText {code : String} {root : Node} (hroot : root.WellFormed code) :
    Woven (Bytes.ofString code) root (Bytes.Boundary code) (Bytes.Boundary code) Bytes.IsText := by
  exact ⟨Bytes.woven_isText code, Bytes.isText_newline _, ⟨Bytes.boundary_zero code, Bytes.boundary_zero code⟩,
    Bytes.boundary_length code, fun n hn => ⟨(hroot.boundaries n hn).1, (hroot.boundaries n hn).1⟩,
    fun n hn => ⟨(hroot.boundaries n hn).2, fun _ => (hroot.boundaries n hn).2⟩⟩

theorem Made.exists_pieces {src : Bytes} {root : Node} {replaced : Replacement → Prop} {written : ImportDecl → Prop}
    {d : Document} (h : d.Made src root replaced written) (hproper : ∀ r, replaced r → r.Proper) :
    ∃ ps, d.pieces = .ok ps := by
  have hstatements : ∀ s ∈ d.statements, ∃ ps, s.pieces d.source = .ok ps := by
    intro s hs
    have hmade := h.statements s hs
    rw [Statement.pieces, Statement.render]
    cases hverbatim : s.verbatim with
    | true =>
      obtain ⟨slot, hslot⟩ := Option.isSome_iff_exists.1 (hmade.verbatim hverbatim)
      obtain ⟨b, hb⟩ := Replacement.exists_splice d.source (fun r hr => (hproper r (hmade.replacements r hr)).callee)
        slot.start slot.stop
      rw [hslot]
      dsimp only
      rw [hb]
      exact ⟨_, rfl⟩
    | false =>
      obtain ⟨decl, hform, -⟩ := hmade.anew hverbatim
      dsimp only
      rw [Statement.generate, hform]
      exact ⟨_, rfl⟩
  obtain ⟨pss, hpss⟩ := Failure.mapM_eq_ok hstatements
  rw [pieces, hpss]
  exact ⟨_, rfl⟩

/-- A document prints as a text, if its replacements can be carried out and cut no character. -/
theorem Made.render {code : String} {root : Node} {replaced : Replacement → Prop} {written : ImportDecl → Prop}
    {d : Document} (h : d.Made (Bytes.ofString code) root replaced written) (hroot : root.WellFormed code)
    (hproper : ∀ r, replaced r → r.Proper) (hbounded : ∀ r, replaced r → r.Bounded code) :
    ∃ text, d.render = .ok text := by
  obtain ⟨ps, hps⟩ := h.exists_pieces hproper
  have hbytes : d.renderBytes = .ok (d.source.take d.bodyStart ++ Piece.row d.source ps ++ d.source.drop d.bodyStop) := by
    rw [renderBytes, hps]
    rfl
  have hstops : ∀ n ∈ root.children, Bytes.Boundary code n.stop :=
    fun n hn => (hroot.boundaries n (Node.child_mem_nodes hn)).2
  have htext := Made.good_renderBytes (woven_isText hroot) hroot.inOrder_children (fun r hr => (hbounded r hr).fits)
    (fun decl _ => Bytes.isText_ofString decl.print) h (h.anchored hstops) hbytes
  obtain ⟨text, hdecode, -⟩ := htext.decode
  refine ⟨text, ?_⟩
  rw [Document.render, hbytes]
  exact hdecode

/-! ## The file as it was read -/

theorem made_ofItems (src : Bytes) (root : Node) (replaced : Replacement → Prop) (written : ImportDecl → Prop) :
    (ofItems src root).Made src root replaced written := by
  have hcomments {is : List Item} {placement : Placement} (his : ∀ i ∈ is, i ∈ items root ∧ i.isComment = true) :
      ∀ c ∈ is.map (Item.comment src placement), c.Kept root := by
    intro c hc
    obtain ⟨i, hi, rfl⟩ := List.mem_map.1 hc
    exact ⟨i, (his i hi).1, (his i hi).2, rfl⟩
  have hslots : (ofItems src root).places.filterMap Place.slot = (items root).map Item.slot := by
    rw [places_ofItems, List.filterMap_map]
    exact congrFun List.filterMap_eq_map (items root)
  rw [ofItems_eq] at hslots ⊢
  refine ⟨⟨rfl, rfl⟩, rfl, rfl, hcomments fun i hi => ⟨mem_items_of_header hi, isComment_of_mem_header hi⟩,
    fun s hs => ?_, hslots⟩
  obtain ⟨g, hg, rfl⟩ := List.mem_map.1 hs
  have hsorted := sorted_outline src root g hg
  refine ⟨fun c hc => ?_, fun slot hslot => ⟨g.item, ?_, hsorted.item, Option.some.inj hslot⟩, fun _ => rfl, nofun, nofun⟩
  · rcases List.mem_append.1 hc with hc | hc
    · exact hcomments (fun i hi => ⟨mem_items_of_group hg (List.mem_append_left _ hi), hsorted.leading i hi⟩) c hc
    · exact hcomments (fun i hi => ⟨mem_items_of_group hg (List.mem_append_right _ (List.mem_cons_of_mem _ hi)),
        hsorted.trailing i hi⟩) c hc
  · exact mem_items_of_group hg (List.mem_append_right _ List.mem_cons_self)

/-! ## Changes -/

section Changes
variable {src : Bytes} {root : Node} {replaced : Replacement → Prop} {written : ImportDecl → Prop} {d : Document}
  (h : d.Made src root replaced written)
include h

theorem Made.with_statements {ss : List Statement} (hss : ∀ s ∈ ss, s.Made root replaced written)
    (hslots : (places { d with statements := ss }).filterMap Place.slot = d.places.filterMap Place.slot) :
    Made src root replaced written { d with statements := ss } :=
  ⟨⟨h.bodyStart, h.bodyStop⟩, h.source, h.tree, h.comments, hss, hslots.trans h.slots⟩

omit h in
theorem Opened.slots {d d' : Document} (hopened : d.Opened d') :
    d'.places.filterMap Place.slot = d.places.filterMap Place.slot := by
  obtain ⟨above, below, hold, hnew⟩ := hopened
  simp [hold, hnew]

theorem Made.insert (i : Nat) {decl : ImportDecl} (hdecl : written decl) :
    (d.insert i (Statement.ofImport decl)).Made src root replaced written := by
  have hnew : (Statement.ofImport decl).Made root replaced written :=
    ⟨nofun, nofun, nofun, fun _ => ⟨decl, rfl, hdecl⟩, nofun⟩
  refine h.with_statements (fun s hs => ?_) (d.places_insert i decl).slots
  rcases List.mem_append.1 hs with hs | hs
  · exact h.statements s (List.mem_of_mem_take hs)
  · rcases List.mem_cons.1 hs with rfl | hs
    · exact hnew
    · exact h.statements s (List.mem_of_mem_drop hs)

theorem Made.insertAtTop {decl : ImportDecl} (hdecl : written decl) :
    (d.insertAtTop (Statement.ofImport decl)).2.Made src root replaced written := by
  have hnew {leading : List Comment} (hleading : ∀ c ∈ leading, c.Kept root) :
      Statement.Made root replaced written { Statement.ofImport decl with leading := leading } :=
    ⟨by simpa [Statement.ofImport] using hleading, nofun, nofun, fun _ => ⟨decl, rfl, hdecl⟩, nofun⟩
  have hcomments {s : Statement} (hs : s.Made root replaced written) {leading trailing : List Comment}
      (hmoved : ∀ c ∈ leading ++ trailing, c.Kept root) :
      Statement.Made root replaced written { s with leading := leading, trailing := trailing } :=
    ⟨hmoved, hs.slot, hs.verbatim, hs.anew, hs.replacements⟩
  have hslots := (d.places_insertAtTop decl).slots
  rcases d.insertAtTop_cases (Statement.ofImport decl) with
    htop | ⟨-, ⟨first, second, rest, hstatements, htop⟩ | ⟨first, hstatements, htop⟩⟩
  · rw [htop]
    exact h.insert 0 hdecl
  · have hall := h.statements
    simp only [hstatements, List.forall_mem_cons] at hall
    obtain ⟨hfirst, hsecond, hrest⟩ := hall
    have hleading : ∀ c ∈ first.leading, c.Kept root := fun c hc => hfirst.comments c (List.mem_append_left _ hc)
    have hmoved : ∀ c ∈ (first.trailing ++ second.leading) ++ second.trailing, c.Kept root := by
      intro c hc
      rw [List.append_assoc, List.mem_append] at hc
      exact hc.elim (fun hc => hfirst.comments c (List.mem_append_right _ hc)) (hsecond.comments c)
    rw [htop] at hslots ⊢
    refine h.with_statements ?_ hslots
    simp only [List.forall_mem_cons]
    exact ⟨hnew hleading, hcomments hfirst (by simp), hcomments hsecond hmoved, hrest⟩
  · have hfirst := h.statements first (by simp [hstatements])
    have hleading : ∀ c ∈ first.leading, c.Kept root := fun c hc => hfirst.comments c (List.mem_append_left _ hc)
    have htrailing : ∀ c ∈ [] ++ first.trailing, c.Kept root :=
      fun c hc => hfirst.comments c (List.mem_append_right _ hc)
    rw [htop] at hslots ⊢
    refine h.with_statements ?_ hslots
    simp only [List.forall_mem_cons]
    exact ⟨hnew hleading, hcomments hfirst htrailing, by simp⟩

theorem Made.withImport {r : Request} (hdecl : written r.declaration) :
    (d.withImport r).Made src root replaced written := by
  rw [Document.withImport, Request.statement_eq]
  cases hafter : d.insertAfterImports? (Statement.ofImport r.declaration) with
  | some d' =>
    obtain ⟨p, -, rfl⟩ := Option.map_eq_some_iff.1 hafter
    exact h.insert _ hdecl
  | none => exact h.insertAtTop hdecl

theorem Made.merge {i : Nat} {st : Statement} (hst : d.statements[i]? = some st) {decl : ImportDecl} {spec : Specifier}
    (hdecl : written (decl.merge spec)) : (d.modify i fun s => s.merge decl spec).Made src root replaced written := by
  have hslots : (d.modify i fun s => s.merge decl spec).places.filterMap Place.slot = d.places.filterMap Place.slot := by
    obtain ⟨above, below, hold, hnew⟩ := places_merge hst decl spec
    simp [hold, hnew, List.filterMap_cons, Statement.place]
  refine h.with_statements (fun s hs => ?_) hslots
  obtain ⟨j, hj⟩ := List.mem_iff_getElem?.1 hs
  rw [List.getElem?_modify] at hj
  obtain ⟨s', hs', rfl⟩ := Option.map_eq_some_iff.1 hj
  have hold := h.statements s' (List.mem_of_getElem? hs')
  by_cases hij : i = j
  · rw [if_pos hij]
    refine ⟨hold.comments, hold.slot, fun hverbatim => ?_, fun _ => ⟨_, rfl, hdecl⟩, fun r hr => ?_⟩
    · cases hverbatim
    · cases hr
  · rw [if_neg hij]
    exact hold

/-- Ensuring an import keeps what the document is made of, but for the import. -/
theorem Made.ensured {r : Request} (hnew : written r.declaration)
    (hmerged : ∀ i decl, (i, decl) ∈ d.valueImportsFrom r.origin → written (decl.merge r.specifier)) {d' : Document}
    {changed : Bool} (hd : d.ensured r = .ok (changed, d')) : d'.Made src root replaced written := by
  unfold Document.ensured at hd
  split at hd
  · obtain ⟨-, rfl⟩ := Prod.mk.inj (Except.ok.inj hd)
    exact h.withImport hnew
  · next i decl hvalues =>
    have hmem : (i, decl) ∈ d.valueImportsFrom r.origin := hvalues ▸ List.mem_singleton_self _
    split at hd
    · obtain ⟨-, rfl⟩ := Prod.mk.inj (Except.ok.inj hd)
      exact h.withImport hnew
    · split at hd
      · obtain ⟨-, rfl⟩ := Prod.mk.inj (Except.ok.inj hd)
        exact h
      · obtain ⟨-, rfl⟩ := Prod.mk.inj (Except.ok.inj hd)
        obtain ⟨st, hst, -⟩ := mem_imports_iff.1 (mem_valueImportsFrom_iff.1 hmem).1
        exact h.merge hst (hmerged i decl hmem)
  · cases hd

/-- So does recording replacements. -/
theorem Made.marked {on : Nat → List Replacement} (hon : ∀ offset, ∀ r ∈ on offset, replaced r) :
    (d.marked on).Made src root replaced written := by
  refine h.with_statements (fun st hst => ?_) (congrArg (List.filterMap Place.slot) (places_marked on d))
  obtain ⟨s, hs, rfl⟩ := List.mem_map.1 hst
  have hold := h.statements s hs
  refine ⟨hold.comments, hold.slot, hold.verbatim, hold.anew, fun r hr => ?_⟩
  rcases List.mem_append.1 hr with hr | hr
  · exact hold.replacements r hr
  · cases hstart : s.start? with
    | none => simp [hstart] at hr
    | some offset => exact hon offset r (by simpa [hstart] using hr)

end Changes

end Document
end CallRedirect
